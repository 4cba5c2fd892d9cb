import ManagedHost.Settings.Basic
import ManagedHost.Text.Quoted
import ManagedHost.Text.Utf8
import ManagedHost.Toml.Reader

/-!
The settings file. It is a TOML document with a table for each section; a section may also be a
list of its fields in order. Keys of other names do not matter. A missing file is written with the
settings of a fresh deployment.
-/

namespace ManagedHost.Settings

inductive DocumentFault where
  | malformed
  | missingField (name : String)
  | wrongType (found expected : String)
  /-- A list that stands for a section is too short. -/
  | tooShort
deriving DecidableEq

/-- The fault in words, where it has words of its own. -/
def DocumentFault.message? : DocumentFault → Option String
  | missingField name => some ("missing field `" ++ name ++ "`")
  | wrongType found expected => some ("invalid type: " ++ found ++ ", expected " ++ expected)
  | malformed | tooShort => none

/-- A value as a fault names it. -/
def describe : Toml.Value → String
  | .string text => "string " ++ Text.quoted text
  | .integer n => "integer `" ++ toString n ++ "`"
  | .float shown => "floating point `" ++ shown ++ "`"
  | .boolean b => "boolean `" ++ toString b ++ "`"
  | .moment => "map"
  | .array _ => "sequence"
  | .table _ => "map"

def textOf : Toml.Value → Except DocumentFault String
  | .string text => .ok text
  | value => .error (.wrongType (describe value) "a string")

def flagOf : Toml.Value → Except DocumentFault Bool
  | .boolean b => .ok b
  | value => .error (.wrongType (describe value) "a boolean")

/-- One field of a section: its name, how a value is put into the section, and whether the section
cannot do without it. -/
structure Field (σ : Type) where
  name : String
  put : σ → Toml.Value → Except DocumentFault σ
  isRequired : Bool := false

namespace Field

def text {σ : Type} (name : String) (set : σ → String → σ) : Field σ :=
  ⟨name, fun whole value => (textOf value).map (set whole), false⟩

def fillTable {σ : Type} (fields : List (Field σ)) (start : σ)
    (entries : List (String × Toml.Value)) : Except DocumentFault σ := do
  let filled ← entries.foldlM (fun whole (name, value) =>
    match fields.find? (·.name == name) with
    | some field => field.put whole value
    | none => .ok whole) start
  match fields.find? fun field => field.isRequired && !entries.any (·.1 == field.name) with
  | some field => .error (.missingField field.name)
  | none => .ok filled

/-- Fills a section from a list of values, each for the field at its position. -/
def fillList {σ : Type} : (fields : List (Field σ)) → (start : σ) → List Toml.Value →
    Except DocumentFault σ
  | field :: fields, start, value :: values => do fillList fields (← field.put start value) values
  | fields, start, _ => if fields.any (·.isRequired) then .error .tooShort else .ok start

/-- A section from its value. A date or a time is taken for a table without known fields. -/
def readSection {σ : Type} (title : String) (fields : List (Field σ)) (start : σ) :
    Toml.Value → Except DocumentFault σ
  | .table entries => fillTable fields start entries
  | .moment => fillTable fields start []
  | .array items => fillList fields start items
  | value => .error (.wrongType (describe value) ("struct " ++ title))

def nested {σ τ : Type} (name title : String) (fields : List (Field τ)) (start : τ)
    (set : σ → τ → σ) : Field σ :=
  ⟨name, fun whole value => (readSection title fields start value).map (set whole), false⟩

end Field

def bootstrapFields : List (Field Bootstrap) :=
  [{ Field.text "assembly_path" fun s v => { s with assemblyPath := v } with isRequired := true },
    Field.text "assembly_identity" fun s v => { s with assemblyIdentity := v },
    Field.text "entry_type" fun s v => { s with entryType := v },
    Field.text "load_method" fun s v => { s with loadMethod := v },
    Field.text "unload_method" fun s v => { s with unloadMethod := v }]

def runtimeFields : List (Field RuntimeChoice) :=
  [Field.text "min_version" fun s v => { s with minVersion := v },
    Field.text "root" fun s v => { s with root := some v },
    Field.text "version" fun s v => { s with version := some v }]

def importsFields : List (Field Imports) :=
  [Field.text "assembly_identity" fun s v => { s with assemblyIdentity := v },
    Field.text "event_type" fun s v => { s with eventType := v }]

def loggingFields : List (Field Logging) :=
  [Field.text "level" fun s v => { s with level := v },
    ⟨"json_format", fun s value => (flagOf value).map fun v => { s with jsonFormat := v }, false⟩]

def sections : List (Field Settings) :=
  [{ Field.nested "bootstrap" "BootstrapSettings" bootstrapFields { assemblyPath := "" }
      fun s v => { s with bootstrap := v } with isRequired := true },
    Field.nested "runtime" "RuntimeSettings" runtimeFields {} fun s v => { s with runtime := v },
    Field.nested "imports" "ImportSettings" importsFields {} fun s v => { s with imports := v },
    Field.nested "logging" "LoggingSettings" loggingFields {} fun s v => { s with logging := v }]

def ofFields (fields : List (String × Toml.Value)) : Except DocumentFault Settings :=
  Field.fillTable sections { bootstrap := { assemblyPath := "" } } fields

def ofDocument (text : String) : Except DocumentFault Settings :=
  match Toml.fieldsOf? text with
  | none => .error .malformed
  | some fields => ofFields fields

def documentChar (c : Char) : String :=
  if c = '"' then "\\\"" else if c = '\\' then "\\\\"
  else if c.toNat < 0x20 || c.toNat = 0x7f then
    (if c.toNat < 0x10 then "\\u000" else "\\u00") ++ Text.hexDigits c.toNat
  else String.singleton c

def documentString (text : String) : String :=
  "\"" ++ String.join (text.toList.map documentChar) ++ "\""

def toFields (settings : Settings) : List (String × Toml.Value) :=
  let optional (name : String) (value : Option String) : List (String × Toml.Value) :=
    (value.map fun text => (name, Toml.Value.string text)).toList
  [("bootstrap", .table
      [("assembly_path", .string settings.bootstrap.assemblyPath),
        ("assembly_identity", .string settings.bootstrap.assemblyIdentity),
        ("entry_type", .string settings.bootstrap.entryType),
        ("load_method", .string settings.bootstrap.loadMethod),
        ("unload_method", .string settings.bootstrap.unloadMethod)]),
    ("runtime", .table (("min_version", .string settings.runtime.minVersion) ::
      optional "root" settings.runtime.root ++ optional "version" settings.runtime.version)),
    ("imports", .table
      [("assembly_identity", .string settings.imports.assemblyIdentity),
        ("event_type", .string settings.imports.eventType)]),
    ("logging", .table
      [("level", .string settings.logging.level),
        ("json_format", .boolean settings.logging.jsonFormat)])]

def documentValue : Toml.Value → String
  | .string text => documentString text
  | .boolean b => toString b
  | _ => ""

def documentSection : String × Toml.Value → String
  | (title, .table fields) =>
    "[" ++ title ++ "]\n" ++ String.join (fields.map fun (name, value) =>
      name ++ " = " ++ documentValue value ++ "\n")
  | _ => ""

def toDocument (settings : Settings) : String :=
  "\n".intercalate (settings.toFields.map documentSection)

inductive LoadFault where
  | file (error : FileError)
  | document (fault : DocumentFault)
deriving DecidableEq

def readText (files : FileSystem) (directory : Place) (path : String) : Except FileError String := do
  match Text.Utf8.decode (← files.read directory path) with
  | .ok text => return text
  | .error _ => .error .notText

/-- Takes the settings from a file. Where nothing is present, the file is written first; the file
system afterwards is part of the result. -/
def load (files : FileSystem) (directory : Place) (path : String) :
    FileSystem × Logged (Except LoadFault Settings) :=
  if files.isPresent directory path then
    match readText files directory path with
    | .error e => (files, pure (.error (.file e)))
    | .ok text =>
      match ofDocument text with
      | .ok settings => (files, pure (.ok settings))
      | .error fault => (files, pure (.error (.document fault)))
  else
    match files.write directory path (Text.Utf8.encode fresh.toDocument) with
    | .error e => (files, pure (.error (.file e)))
    | .ok written =>
      (written, do
        Logged.write .info .settings ("Created default configuration file: " ++ path)
        return .ok fresh)

end ManagedHost.Settings
