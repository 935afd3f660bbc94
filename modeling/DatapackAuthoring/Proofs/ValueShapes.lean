import DatapackAuthoring.Proofs.Outcome
import DatapackAuthoring.Selector.Capability
import DatapackAuthoring.Value.Plain

namespace DatapackAuthoring.Value

@[simp] theorem asText?_text (s : String) : (text s).asText? = some s := rfl

theorem isAbsent_of_asText? {value : Value} {s : String} (text : value.asText? = some s) :
    value.isAbsent = false := by
  cases value with
  | absent => simp [asText?] at text
  | _ => rfl

theorem plain_of_asText? {value : Value} {s : String} (text : value.asText? = some s) :
    value.plain = .ok s := by
  cases value with
  | text t => simpa [plain, asText?] using text
  | target t => simpa [plain, asText?] using text
  | _ => simp [asText?] at text

theorem plain_eq_ok_iff {value : Value} {text : String} :
    value.plain = .ok text ↔ ∃ wording, value.wording = .ok wording ∧ wording.text = text := by
  rw [← text_wording, map_eq_ok_iff]

theorem plain_eq_error_iff {value : Value} {fault : Fault} :
    value.plain = .error fault ↔ value.wording = .error fault := by
  rw [← text_wording, map_eq_error_iff]

theorem hashed_of_asText? {value : Value} {s : String} (text : value.asText? = some s) :
    value.hashed = .ok () := by
  cases value with
  | text t => rfl
  | target t => rfl
  | _ => simp [asText?] at text

theorem asSequence?_of_asText? {value : Value} {s : String} (text : value.asText? = some s) :
    value.asSequence? = none := by
  cases value with
  | list items => simp [asText?] at text
  | tuple items => simp [asText?] at text
  | _ => rfl

theorem asText?_of_asSequence? {value : Value} {items : List Value}
    (sequence : value.asSequence? = some items) : value.asText? = none := by
  cases text : value.asText? with
  | none => rfl
  | some s => simp [asSequence?_of_asText? text] at sequence

theorem eq_absent_of_isAbsent {value : Value} (missing : value.isAbsent = true) :
    value = absent := by
  cases value with
  | absent => rfl
  | _ => cases missing

theorem asMany_of_asSequence? {value : Value} {items : List Value}
    (sequence : value.asSequence? = some items) :
    value.asMany = items.filter fun item => !item.isAbsent := by
  cases value with
  | list own => rw [← Option.some.inj sequence]; rfl
  | tuple own => rw [← Option.some.inj sequence]; rfl
  | _ => cases sequence

theorem asMany_of_single {value : Value} (single : value.asSequence? = none)
    (present : value.isAbsent = false) : value.asMany = [value] := by
  cases value with
  | absent => simp [isAbsent] at present
  | list items => cases single
  | tuple items => cases single
  | _ => rfl

end DatapackAuthoring.Value
