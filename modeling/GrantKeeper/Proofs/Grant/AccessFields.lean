/-
The type and the scopes of an access token, as columns hold them.

What is read of a column of scopes are the pieces between its commas, trimmed.  So a scope that was
read is not empty and has neither a comma nor a blank at an end (`columnScope_of_mem_ofColumn`), and
a set comes back from its column as it was exactly if its scopes are all like that
(`column_laws`).  A type that was read is spelled in one way if it is that of a bearer, in capital
or small letters of whatever script (`normalTokenType_eq_of_lower`).
-/
import Mathlib.Data.List.DropRight
import GrantKeeper.Proofs.Grant.NormalForm
import GrantKeeper.Text.Case

namespace GrantKeeper

namespace Text

/-! ## Trimming -/

/-- A character at the front or at the back. -/
def AtEnd (c : Char) (cs : List Char) : Prop :=
  cs.head? = some c ∨ cs.getLast? = some c

theorem trimWhere_eq_rdropWhile (p : Char → Bool) (cs : List Char) :
    trimWhere p cs = (cs.dropWhile p).rdropWhile p := rfl

theorem not_of_atEnd_trimWhere {p : Char → Bool} {cs : List Char} {c : Char}
    (h : AtEnd c (trimWhere p cs)) : p c = false := by
  rw [trimWhere_eq_rdropWhile] at h
  rcases h with h | h
  · have hfront := List.head?_dropWhile_not p cs
    obtain ⟨rest, hrest⟩ := List.rdropWhile_prefix p (cs.dropWhile p)
    rw [← hrest, List.head?_append, h] at hfront
    exact hfront
  · have hne : (cs.dropWhile p).rdropWhile p ≠ [] := by
      intro hnil
      rw [hnil] at h
      cases h
    have hback := List.rdropWhile_last_not p (cs.dropWhile p) hne
    rw [(List.getLast_eq_iff_getLast?_eq_some hne).mpr h] at hback
    exact Bool.not_eq_true _ ▸ hback

theorem mem_of_mem_trimWhere {p : Char → Bool} {cs : List Char} {c : Char}
    (h : c ∈ trimWhere p cs) : c ∈ cs :=
  (List.dropWhile_sublist p).subset ((List.rdropWhile_prefix p _).subset h)

theorem trimWhere_eq_self {p : Char → Bool} {cs : List Char}
    (h : ∀ c, AtEnd c cs → p c = false) : trimWhere p cs = cs := by
  have hfront : cs.dropWhile p = cs := List.dropWhile_eq_self_iff.mpr fun hpos => by
    rw [h cs[0] (.inl (List.head?_eq_getElem?.trans (List.getElem?_eq_getElem hpos)))]
    exact Bool.false_ne_true
  rw [trimWhere_eq_rdropWhile, hfront]
  exact List.rdropWhile_eq_self_iff.mpr fun hne => by
    rw [h (cs.getLast hne) (.inr (List.getLast?_eq_some_getLast hne))]
    exact Bool.false_ne_true

theorem trim_eq_self {s : String} (h : ∀ c, AtEnd c s.toList → isBlank c = false) : trim s = s := by
  rw [trim, trimWhere_eq_self h, String.ofList_toList]

/-! ## Small letters -/

/-- A small letter that only its own capital has for its small form: no other letter, of whatever
script, is a step of some range away from it. -/
structure SoleSmall (c : Char) : Prop where
  pos : 0 < c.toNat
  ascii : c.toNat < 0x80
  ne : c ≠ 'i'
  outside : ∀ range ∈ capitalRanges, (c.toNat : Int) < range.1 + range.2.2.2 ∨
    range.2.1 + range.2.2.2 < (c.toNat : Int)

theorem lowerChar_ne_nil (c : Char) : lowerChar c ≠ [] := by
  unfold lowerChar
  dsimp only
  split
  · exact List.cons_ne_nil _ _
  · split
    · exact List.cons_ne_nil _ _
    · split <;> exact List.cons_ne_nil _ _

theorem lowerChar_eq_cons {c x : Char} {rest : List Char} (hx : SoleSmall x)
    (h : lowerChar c = x :: rest) : c.toLower = x ∧ rest = [] := by
  unfold lowerChar at h
  dsimp only at h
  split at h
  · obtain ⟨hhead, htail⟩ := List.cons_eq_cons.mp h
    exact ⟨hhead, htail.symm⟩
  · next hlarge =>
    split at h
    · exact absurd (List.cons_eq_cons.mp h).1.symm hx.ne
    · split at h
      · next low high step distance hfound =>
        -- The small form is within its range moved by the distance, where no sole letter is.
        have hholds := List.find?_some hfound
        simp only [Bool.and_eq_true, decide_eq_true_eq] at hholds
        have hletter := congrArg Char.toNat (List.cons_eq_cons.mp h).1
        have hpos := hx.pos
        have houtside := hx.outside _ (List.mem_of_find?_eq_some hfound)
        dsimp only at houtside
        by_cases hvalid : (((c.toNat : Int) + distance).toNat).isValidChar
        · rw [Char.ofNat, dif_pos hvalid] at hletter
          have hsum : ((c.toNat : Int) + distance).toNat = x.toNat := hletter
          omega
        · rw [Char.ofNat, dif_neg hvalid] at hletter
          exact absurd hletter hpos.ne
      · have hascii := hx.ascii
        rw [← (List.cons_eq_cons.mp h).1] at hascii
        exact absurd hascii hlarge

/-- A word of sole letters is the small form of what has it for its small form in ASCII. -/
theorem map_toLower_of_lowerFrom {word : List Char} (hword : ∀ x ∈ word, SoleSmall x)
    {cs : List Char} {afterLetter : Bool} (h : lowerFrom afterLetter cs = word) :
    cs.map Char.toLower = word := by
  induction cs generalizing afterLetter word with
  | nil => exact h
  | cons c cs ih =>
    rw [lowerFrom] at h
    split at h
    · -- A sigma is no letter of the word.
      rw [← h] at hword
      exact absurd (hword '\u03C2' List.mem_cons_self).ascii (by decide)
    · cases hsmall : lowerChar c with
      | nil => exact absurd hsmall (lowerChar_ne_nil c)
      | cons x rest =>
        rw [hsmall, List.cons_append] at h
        subst h
        obtain ⟨hx, rfl⟩ := lowerChar_eq_cons (hword x List.mem_cons_self) hsmall
        have hrest : ∀ y ∈ lowerFrom (isLetter c) cs, SoleSmall y := fun y hy =>
          hword y (List.mem_cons_of_mem x hy)
        rw [List.map_cons, hx, ih hrest rfl]
        rfl

theorem soleSmall_of_mem_bearer : ∀ x ∈ "bearer".toList, SoleSmall x := by
  have hchecked : ("bearer".toList.all fun x => decide (0 < x.toNat) && decide (x.toNat < 0x80) &&
      decide (x ≠ 'i') && capitalRanges.all fun range =>
        decide ((x.toNat : Int) < range.1 + range.2.2.2) ||
          decide (range.2.1 + range.2.2.2 < (x.toNat : Int))) = true := by decide +kernel
  intro x hx
  have hx' := List.all_eq_true.mp hchecked x hx
  simp only [Bool.and_eq_true, Bool.or_eq_true, decide_eq_true_eq, List.all_eq_true] at hx'
  obtain ⟨⟨⟨hpos, hascii⟩, hne⟩, houtside⟩ := hx'
  exact ⟨hpos, hascii, hne, houtside⟩

end Text

namespace ScopeSet

/-- A scope that a column can give back: not empty, without a comma and without a blank at an
end. -/
structure ColumnScope (scope : String) : Prop where
  ne_empty : scope ≠ ""
  not_comma : ',' ∉ scope.toList
  not_blank_atEnd : ∀ c, Text.AtEnd c scope.toList → Text.isBlank c = false

theorem columnScope_of_mem_ofColumn {column : Option String} {scope : String}
    (h : scope ∈ ofColumn column) : ColumnScope scope := by
  rw [ofColumn, mem_ofList] at h
  cases column with
  | none => cases h
  | some text =>
    obtain ⟨hmem, hne⟩ := List.mem_filter.mp h
    obtain ⟨piece, hpiece, rfl⟩ := List.mem_map.mp hmem
    refine ⟨of_decide_eq_true hne, fun hcomma => ?_, fun c hend => ?_⟩
    · rw [Text.trim, String.toList_ofList, String.toList_ofList] at hcomma
      exact Text.not_mem_of_mem_pieces hpiece (Text.mem_of_mem_trimWhere hcomma)
    · rw [Text.trim, String.toList_ofList] at hend
      exact Text.not_of_atEnd_trimWhere hend

/-- A scope as one that comes back from the column of a set: a piece of a scope of the set between
commas, trimmed. -/
def Piece (set : ScopeSet) (scope : String) : Prop :=
  scope ≠ "" ∧ ∃ s ∈ set, ∃ piece ∈ Text.pieces ',' s.toList,
    Text.trim (String.ofList piece) = scope

/-- A column gives its scopes back as they were. -/
theorem piece_iff_of_columnScope {set : ScopeSet} (h : ∀ s ∈ set, s ≠ "" → ColumnScope s)
    {scope : String} : set.Piece scope ↔ scope ∈ set ∧ scope ≠ "" := by
  have hwhole : ∀ s ∈ set, s ≠ "" → ∀ piece, piece ∈ Text.pieces ',' s.toList ↔ piece = s.toList :=
    fun s hs hne piece => by
      rw [Text.pieces_of_not_mem (h s hs hne).not_comma, List.mem_singleton]
  constructor
  · rintro ⟨hne, s, hs, piece, hpiece, rfl⟩
    refine ⟨?_, hne⟩
    by_cases hempty : s = ""
    · -- An empty scope has one piece, which is empty and trims to nothing.
      subst hempty
      obtain rfl : piece = [] := by simpa [Text.pieces] using hpiece
      exact absurd rfl hne
    · obtain rfl := (hwhole s hs hempty piece).mp hpiece
      rwa [String.ofList_toList, Text.trim_eq_self (h s hs hempty).not_blank_atEnd]
  · rintro ⟨hs, hne⟩
    refine ⟨hne, scope, hs, scope.toList, (hwhole scope hs hne _).mpr rfl, ?_⟩
    rw [String.ofList_toList, Text.trim_eq_self (h scope hs hne).not_blank_atEnd]

/-- A set comes back from its column as it was exactly if each of its scopes is one that a column can
give back. -/
theorem normal_eq_self_iff {set : ScopeSet} :
    set.normal = set ↔ ∀ scope ∈ set, ColumnScope scope := by
  constructor
  · intro h scope hscope
    rw [← h] at hscope
    exact columnScope_of_mem_ofColumn hscope
  · intro h
    refine ScopeSet.ext fun scope => mem_normal_iff.trans ?_
    have hpiece : set.Piece scope ↔ scope ∈ set ∧ scope ≠ "" :=
      piece_iff_of_columnScope fun s hs _ => h s hs
    exact hpiece.trans (and_iff_left_of_imp fun hscope => (h scope hscope).ne_empty)

theorem normal_normal (set : ScopeSet) : set.normal.normal = set.normal :=
  normal_eq_self_iff.mpr fun _ h => columnScope_of_mem_ofColumn h

/-- What comes back from scopes with commas between them does not depend on their order. -/
theorem ofColumn_intercalate (order : List String) :
    ofColumn (some (",".intercalate order)) = (ofList order).normal := by
  refine ScopeSet.ext fun scope => ?_
  rw [mem_ofColumn_intercalate_iff, mem_normal_iff]
  simp only [mem_ofList]

/-- What a column of scopes keeps. A set comes back from its column exactly if each of its scopes is
non-empty and has neither a comma nor a blank at an end. Whatever the scopes are, and in whatever
order they are put together, their pieces between commas come back, trimmed, those of blanks only
left out. And whatever a text holds, the scopes that are read of it are such scopes, and come back
from a column of their own. -/
theorem column_laws :
    (∀ set : ScopeSet, ofColumn (some set.toColumn) = set ↔ ∀ scope ∈ set, ColumnScope scope) ∧
    (∀ (set : ScopeSet) (scope : String),
      scope ∈ ofColumn (some set.toColumn) ↔ set.Piece scope) ∧
    (∀ order : List String,
      ofColumn (some (",".intercalate order)) = ofColumn (some (ofList order).toColumn)) ∧
    (∀ (text : String) (scope : String), scope ∈ ofColumn (some text) → ColumnScope scope) ∧
    ∀ text : String, ofColumn (some (ofColumn (some text)).toColumn) = ofColumn (some text) := by
  refine ⟨fun set => normal_eq_self_iff, fun set scope => mem_normal_iff, ofColumn_intercalate,
    fun text scope h => columnScope_of_mem_ofColumn h, fun text => ?_⟩
  exact normal_eq_self_iff.mpr fun _ h => columnScope_of_mem_ofColumn h

/-- Of the text below an em space and a tab are trimmed, so that `read` comes back, and the set of
one scope with a comma is not what its column holds. -/
theorem column_laws_sample :
    "read" ∈ ofColumn (some "\u2003read\t, ,") ∧ ColumnScope "read" ∧
    ofColumn (some (ofList ["read,admin"]).toColumn) ≠ ofList ["read,admin"] := by
  obtain ⟨hexact, _, _, hread, _⟩ := column_laws
  have hmem : "read" ∈ ofColumn (some "\u2003read\t, ,") := mem_def.mpr (by decide +kernel)
  refine ⟨hmem, hread _ "read" hmem, fun hsame => ?_⟩
  exact ((hexact _).mp hsame "read,admin" (mem_ofList.mpr List.mem_cons_self)).not_comma (by decide)

/-- What a text of scopes with a separator between them falls into are pieces of the scopes. -/
theorem mem_pieces_textWith {set : ScopeSet} {separator : Char} {item : List Char}
    (h : item ∈ Text.pieces separator (set.textWith separator).toList) (hne : item ≠ []) :
    ∃ scope ∈ set, item ∈ Text.pieces separator scope.toList := by
  rw [textWith, String.toList_ofList] at h
  cases hlist : set.toList with
  | nil =>
    rw [hlist] at h
    exact absurd (List.mem_singleton.mp h) hne
  | cons first rest =>
    rw [Text.pieces_joined _ (by simp [hlist])] at h
    obtain ⟨cs, hcs, hitem⟩ := List.mem_flatMap.mp h
    obtain ⟨scope, hscope, rfl⟩ := List.mem_map.mp hcs
    exact ⟨scope, hscope, hitem⟩

end ScopeSet

/-- A normal type whose small form is that of bearer is spelled in the one way. -/
theorem normalTokenType_eq_of_lower {type : String}
    (h : Text.lower (normalTokenType type) = "bearer") : normalTokenType type = "Bearer" := by
  unfold normalTokenType at h ⊢
  split
  · rfl
  · next hother =>
    rw [if_neg hother] at h
    refine absurd (String.toList_inj.mp ?_) hother
    have hsmall : type.toLower.toList = type.toList.map Char.toLower := String.toList_map
    rw [hsmall]
    have hlower : Text.lowerFrom false type.toList = "bearer".toList := by
      rw [← h, Text.lower, String.toList_ofList]
    exact Text.map_toLower_of_lowerFrom Text.soleSmall_of_mem_bearer hlower

end GrantKeeper
