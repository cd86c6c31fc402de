import Cerbero.Lib.JsonOrder
import Cerbero.Normalizer.Core
import Cerbero.Normalizer.JournaldRoundTrip

/-!
# Normalizer/CanonicalJson — canonical JSON is canonical

`canonical.rs`: two values have the same canonical bytes exactly if they are equal up to the order
of their members, and the bytes are read back as such a value
(**`canonicalJsonBytes_canonical`**).  A decoder by the standard takes them too, as far as it reads
nested values at all (`fromSlice_canonicalJsonBytes`).
-/

namespace Cerbero

namespace Normalizer

open Text Json

/-- `serde_json::Value`: a number is the text of one, and an object is a map. -/
structure Value where
  json : Json
  wellFormed : json.WellFormed
  distinct : json.Distinct

namespace Value

/-- The value the canonical bytes are written from. -/
def canonicalize (value : Value) : Value :=
  ⟨value.json.canonicalize, value.wellFormed.canonicalize, value.distinct.canonicalize⟩

/-- Equality up to the order of members. -/
def Same (v w : Value) : Prop := UpToOrder v.json w.json

theorem same_canonicalize (value : Value) : value.Same value.canonicalize :=
  upToOrder_canonicalize value.distinct

end Value

/-- A document by the grammar, its members in the order of the text. -/
def parseJson (raw : List UInt8) : Option Json := do
  let text ← fromUtf8 raw
  Json.read text.toList

theorem parseJson_canonicalJsonBytes (value : Value) :
    parseJson (canonicalJsonBytes value.json) = some value.canonicalize.json := by
  rw [parseJson, canonicalJsonBytes, fromUtf8_bytes, Option.bind_eq_bind, Option.bind_some]
  exact read_render value.canonicalize.wellFormed

/-- **Canonical JSON is canonical**: equal bytes are equality up to the order of members, and the
bytes are parsed back to such a value. -/
theorem canonicalJsonBytes_canonical (v w : Value) :
    (canonicalJsonBytes v.json = canonicalJsonBytes w.json ↔ v.Same w) ∧
      ∃ u : Value, parseJson (canonicalJsonBytes v.json) = some u.json ∧ v.Same u := by
  refine ⟨?_, v.canonicalize, parseJson_canonicalJsonBytes v, v.same_canonicalize⟩
  rw [canonicalJsonBytes, canonicalJsonBytes, bytes_injective.eq_iff]
  exact render_canonicalize_eq_iff v.wellFormed w.wellFormed v.distinct w.distinct

/-- A decoder by the standard reads the canonical bytes of a value it can read at all. -/
theorem fromSlice_canonicalJsonBytes {fromSlice : List UInt8 → Option Json}
    (hdecoder : StandardDecoder fromSlice) (value : Value)
    (hreadable : Readable 127 value.canonicalize.json) :
    ∃ u : Value, fromSlice (canonicalJsonBytes value.json) = some u.json ∧ value.Same u := by
  refine ⟨value.canonicalize.canonicalize, ?_,
    value.same_canonicalize.trans value.canonicalize.same_canonicalize⟩
  have htext : value.json.canonicalize.render =
      String.ofList (value.canonicalize.json.write escapeChar) := by
    rw [← toList_render, String.ofList_toList]
    rfl
  rw [canonicalJsonBytes, htext]
  exact hdecoder _ escaping_escapeChar _ value.canonicalize.wellFormed hreadable

example : canonicalJsonBytes (.object [("z", .ofInt 1), ("a", .object [("y", .ofInt 2),
      ("b", .ofInt 3)])]) = bytes "\x7b\"a\":\x7b\"b\":3,\"y\":2\x7d,\"z\":1\x7d" := by
  decide +kernel

end Normalizer

end Cerbero
