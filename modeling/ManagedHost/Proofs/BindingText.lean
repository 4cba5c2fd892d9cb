import ManagedHost.Bridge.Load
import Mathlib.Tactic.SplitIfs

/-! # The text in which bindings are told

The load method is told the bindings as JSON, in which a NUL inside a name is escaped like any other
control character. So the text never holds a NUL, and it can always be passed on
(`Registry.toJson_noNul`), whatever the names of the bindings are. -/

namespace ManagedHost

namespace Json

theorem controlEscape_noNul {c : Char} (h : c.toNat < 0x20) : '\x00' ∉ controlEscape c := by
  have digits : ∀ n : Fin 0x20, '\x00' ∉ Nat.toDigits 16 n := by decide
  simpa [controlEscape] using digits ⟨c.toNat, h⟩

theorem writeChar_noNul (c : Char) : '\x00' ∉ writeChar c := by
  unfold writeChar
  split
  case h_6 =>
    split_ifs with backspace feed control
    · simp
    · simp
    · exact controlEscape_noNul control
    · intro same
      rw [← List.mem_singleton.mp same] at control
      exact control (by decide)
  all_goals simp

theorem writeString_noNul (text : String) : '\x00' ∉ (writeString text).toList := by
  simp [writeString, writeChar_noNul]

theorem intercalate_noNul {texts : List String} (h : ∀ text ∈ texts, '\x00' ∉ text.toList) :
    '\x00' ∉ (",".intercalate texts).toList := by
  induction texts with
  | nil => simp
  | cons first rest ih =>
    obtain ⟨here, there⟩ := List.forall_mem_cons.mp h
    cases rest with
    | nil => simpa using here
    | cons second rest =>
      rw [String.intercalate_cons_cons, String.toList_append, String.toList_append,
        List.mem_append, List.mem_append]
      simp only [here, ih there, or_false, false_or]
      decide

theorem writeObject_noNul {fields : List (String × String)}
    (h : ∀ field ∈ fields, '\x00' ∉ field.2.toList) : '\x00' ∉ (writeObject fields).toList := by
  rw [writeObject, String.toList_append, String.toList_append, List.mem_append, List.mem_append]
  refine not_or.mpr ⟨not_or.mpr ⟨by decide, intercalate_noNul ?_⟩, by decide⟩
  intro member hm
  obtain ⟨field, hf, rfl⟩ := List.mem_map.mp hm
  simp [writeString_noNul, h field hf]

end Json

/-- The text in which the managed side is told the bindings holds no NUL. -/
theorem Registry.toJson_noNul (registry : Registry) : '\x00' ∉ registry.toJson.toList := by
  apply Json.writeObject_noNul
  intro field hf
  obtain ⟨entry, -, rfl⟩ := List.mem_map.mp hf
  change '\x00' ∉ (toString entry.2).toList
  rw [Nat.toString_eq_ofList_toDigits, String.toList_ofList]
  intro nul
  cases Nat.isDigit_of_mem_toDigits (by decide) (by decide) nul

/-- The load method can be told any bindings. -/
theorem Registry.ofValues_toJson (registry : Registry) (name : String) :
    Cell.ofValues name [.text registry.toJson] =
      .ok [.text (.bytes (Text.Utf8.encode registry.toJson))] := by
  simp only [Cell.ofValues, List.mapM_cons, List.mapM_nil, Cell.ofValue, registry.toJson_noNul]
  rfl

end ManagedHost
