/-
Claim maps as text and back.

What is written of a claim map is read as its normal form, the normal form is written as the same
text, and what any text is read as is its own normal form.  So one time of writing and reading
settles a map (`codec_roundTrip`).
-/
import GrantKeeper.Proofs.Claim.Stored
import GrantKeeper.Proofs.Json.Read

namespace GrantKeeper

namespace Claims

/-! ## Writing the normal form -/

theorem toJson_normal {claims : Claims} {text : String} (h : claims.toJson = .ok text) :
    claims.normal.toJson = .ok text := by
  obtain ⟨hfault, rfl⟩ := toJson_eq_ok_iff.mp h
  have hnormal : (Claim.map claims.normal).fault? = none :=
    Claim.fault?_normal (c := .map claims) hfault
  have hwritten : (Claim.map claims.normal).written = (Claim.map claims).written :=
    Claim.written_normal (.map claims)
  rw [toJson_eq_ok_iff, hwritten]
  exact ⟨hnormal, rfl⟩

theorem encode_normal {claims : Claims} {field text : String} (h : claims.encode field = .ok text)
    (field' : String) : claims.normal.encode field' = .ok text :=
  encode_eq_ok_iff.mpr (toJson_normal (encode_eq_ok_iff.mp h))

theorem decodeStrict_of_encode {claims : Claims} {field text : String}
    (hkeys : claims.keysOnce = true) (h : claims.encode field = .ok text) (field' : String) :
    decodeStrict (some text) field' = .ok claims.normal := by
  have hread := ofJson_of_toJson hkeys (encode_eq_ok_iff.mp h)
  rw [decodeStrict, hread]

/-! ## Reading any text -/

theorem ofText_ofJson {s : String} {claims : Claims} (h : ofJson s = .ok claims) :
    (Claim.map claims).OfText := by
  unfold ofJson at h
  split at h
  · cases h
    exact Claim.Readable.ofText List.nodup_nil rfl
  · split at h
    · cases h
    · next hparse =>
      cases h
      exact Json.ofText_parse hparse
    · cases h

theorem ofText_decodeStrict {text : Option String} {field : String} {claims : Claims}
    (h : decodeStrict text field = .ok claims) : (Claim.map claims).OfText := by
  cases text with
  | none =>
    cases h
    exact Claim.Readable.ofText List.nodup_nil rfl
  | some s =>
    unfold decodeStrict at h
    dsimp only at h
    split at h
    · next hread =>
      cases h
      exact ofText_ofJson hread
    · cases h

/-- A map that text can hold is written, and read as it is. -/
theorem exists_encode_of_ofText {claims : Claims} (h : (Claim.map claims).OfText)
    (field : String) :
    ∃ text, claims.encode field = .ok text ∧ decodeStrict (some text) field = .ok claims := by
  have hnormal : claims.normal = claims := Claim.map.inj h.normal_eq
  have hencode : claims.encode field = .ok (String.ofList (Claim.map claims).written) := by
    rw [encode_eq, h.fault?_eq_none]
  have hread := decodeStrict_of_encode h.keysOnce_eq hencode field
  rw [hnormal] at hread
  exact ⟨_, hencode, hread⟩

end Claims

open Claims

/-- A claim map that is encoded is decoded as its normal form, strictly and leniently, and nothing is
reported; the normal form is encoded as the same text, and is the map itself where neither a set nor
a timestamp is found in it.  A map that any text is decoded as is encoded, and decoded as itself. -/
theorem codec_roundTrip :
    Claim.Normalizes Claim.normal ∧
    (∀ (claims : Claims) (field text : String), claims.keysOnce = true →
      claims.encode field = .ok text →
      ∃ norm : Claims, (Claim.map claims).normal = .map norm ∧
        (∀ field', decodeStrict (some text) field' = .ok norm ∧
          decode (some text) field' = pure norm ∧ norm.encode field' = .ok text) ∧
        ((∀ x : Claim, x.Within (.map claims) → x.Plain) → norm = claims)) ∧
    ∀ (text : Option String) (field field' : String) (claims : Claims),
      decodeStrict text field = .ok claims →
      ∃ text', claims.encode field' = .ok text' ∧
        decodeStrict (some text') field' = .ok claims := by
  refine ⟨Claim.normalizes_normal, fun claims field text hkeys h => ?_,
    fun text field field' claims h => exists_encode_of_ofText (ofText_decodeStrict h) field'⟩
  refine ⟨claims.normal, rfl, fun field' => ?_, fun hplain => ?_⟩
  · exact ⟨decodeStrict_of_encode hkeys h field', decode_of_encode hkeys h field',
      encode_normal h field'⟩
  · exact Claim.map.inj (Claim.normal_eq_self hplain)

/-- Claims with a timestamp, a set, a negative zero and a text with escapes. -/
def mixedClaims : Claims :=
  [("iat", .time (.naive ⟨500000, by decide⟩)), ("aud", .set [.text "b", .int 10, .text "a"]),
    ("skew", .real (.zero true)),
    ("deep", .map [("note", .list [.null, .real .nan, .text "é\n\x22"])])]

/-- The mixed claims are written, and read as a map that is written and read as it is. -/
theorem codec_roundTrip_sample :
    mixedClaims.keysOnce = true ∧
    ∃ text norm, mixedClaims.encode "claims" = .ok text ∧
      decodeStrict (some text) "claims" = .ok norm ∧ norm.encode "claims" = .ok text ∧
      ∃ text', norm.encode "claims" = .ok text' ∧
        decodeStrict (some text') "claims" = .ok norm := by
  have hkeys : mixedClaims.keysOnce = true := by decide
  have hdigits : (decimal 10).length ≤ 4300 := by decide
  have hten : (Claim.int 10).fault? = none :=
    (Claim.fault?_eq_none_iff_parts (.int 10)).mpr ⟨hdigits, fun x hx => by cases hx⟩
  have hset : (Claim.set [.text "b", .int 10, .text "a"]).fault? = none := by
    rw [Claim.fault?_set_eq_none_iff]
    simp only [List.forall_mem_cons]
    exact ⟨rfl, hten, rfl, fun x hx => by cases hx⟩
  have hfault : (Claim.map mixedClaims).fault? = none := by
    rw [Claim.fault?, Claim.entriesFault?_eq_none_iff, mixedClaims]
    simp only [List.forall_mem_cons]
    exact ⟨rfl, hset, rfl, rfl, fun x hx => by cases hx⟩
  have hencode := (encode_eq mixedClaims "claims").trans (by rw [hfault])
  obtain ⟨_, hread, hagain⟩ := codec_roundTrip
  obtain ⟨norm, _, hnorm, _⟩ := hread mixedClaims "claims" _ hkeys hencode
  obtain ⟨hdecode, _, hwritten⟩ := hnorm "claims"
  exact ⟨hkeys, _, norm, hencode, hdecode, hwritten, hagain _ "claims" "claims" norm hdecode⟩

end GrantKeeper
