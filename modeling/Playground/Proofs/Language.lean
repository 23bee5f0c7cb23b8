import Mathlib.Data.List.TakeWhile
import Playground.Request

set_option autoImplicit false

/-! # Tags

A tag stands for a language if it is one of the spellings of that language, but for blanks around
it and for capitals (`Language.Spells`). Whoever reads a tag reads it so, and says of any other tag
that it is unsupported, in the words in which it was given (`Language.ofTag_eq_ok_iff`,
`Language.ofTag_eq_error_iff`). -/

namespace Playground

open Text

/-! ## Blanks around a text -/

namespace Text

variable {before core after cs : List Char} {c : Char}

theorem trim_append (hbefore : allBlank before = true) (hafter : allBlank after = true)
    (hcore : ∀ c ∈ core, isBlank c = false) : trim (before ++ core ++ after) = core := by
  have hkeep : ∀ {cs : List Char}, (∀ c ∈ cs, isBlank c = false) → cs.dropWhile isBlank = cs := by
    intro cs hcs
    cases cs with
    | nil => rfl
    | cons c cs => rw [List.dropWhile_cons_of_neg (by simp [hcs c])]
  have hbefore : ∀ c ∈ before, isBlank c = true := List.all_eq_true.1 hbefore
  have hafter : ∀ c ∈ after.reverse, isBlank c = true := fun c hc =>
    List.all_eq_true.1 hafter c (List.mem_reverse.1 hc)
  cases core with
  | nil =>
      have hall : ∀ c ∈ before ++ [] ++ after, isBlank c = true := by
        intro c hc
        rcases List.mem_append.1 (by simpa using hc) with h | h
        · exact hbefore c h
        · exact hafter c (List.mem_reverse.2 h)
      rw [trim, List.dropWhile_eq_nil_iff.2 hall]
      rfl
  | cons c core =>
      rw [trim, List.append_assoc, List.dropWhile_append_of_pos hbefore,
        List.cons_append, List.dropWhile_cons_of_neg (by simp [hcore c]), ← List.cons_append,
        List.reverse_append, List.dropWhile_append_of_pos hafter,
        hkeep fun d hd => hcore d (List.mem_reverse.1 hd), List.reverse_reverse]

/-- A text is what is left of it when it is trimmed, with blanks around that. -/
theorem exists_trim (cs : List Char) :
    ∃ before after, cs = before ++ trim cs ++ after ∧ allBlank before = true ∧
      allBlank after = true := by
  have hall : ∀ cs : List Char, allBlank (cs.takeWhile isBlank) = true := fun cs =>
    List.all_eq_true.2 fun _ hc => List.mem_takeWhile_imp hc
  refine ⟨cs.takeWhile isBlank, ((cs.dropWhile isBlank).reverse.takeWhile isBlank).reverse,
    ?_, hall cs, ?_⟩
  · rw [trim, List.append_assoc, ← List.reverse_append, List.takeWhile_append_dropWhile,
      List.reverse_reverse, List.takeWhile_append_dropWhile]
  · rw [allBlank, List.all_reverse]
    exact hall _

/-- A blank has no case. -/
theorem toLower_of_isBlank (h : isBlank c = true) : c.toLower = c := by
  unfold Char.toLower
  split
  · next hupper =>
      have hlo : 65 ≤ c.toNat := UInt32.le_iff_toNat_le.1 hupper.1
      have hhi : c.toNat ≤ 90 := UInt32.le_iff_toNat_le.1 hupper.2
      simp only [isBlank, Bool.or_eq_true, Bool.and_eq_true, decide_eq_true_eq, beq_iff_eq] at h
      omega
  · rfl

end Text

namespace Language

variable {tag : String} {l : Language} {f : Failure}

/-! ## Spellings -/

/-- The tag is one of the spellings of the language, but for blanks around it and for capitals. -/
def Spells (tag : String) (l : Language) : Prop :=
  ∃ before core after, tag.toList = before ++ core ++ after ∧ allBlank before = true ∧
    allBlank after = true ∧ String.ofList (lower core) ∈ l.tags

theorem isBlank_eq_false_of_tags {core : List Char} (h : String.ofList (lower core) ∈ l.tags) :
    ∀ c ∈ core, isBlank c = false := by
  have htags : (l.tags.all fun name => name.toList.all fun c => !isBlank c) = true := by
    cases l <;> decide
  intro c hc
  by_contra hblank
  have hblank : isBlank c = true := by simpa using hblank
  have hlower : c ∈ (String.ofList (lower core)).toList := by
    rw [String.toList_ofList, ← toLower_of_isBlank hblank]
    exact List.mem_map_of_mem hc
  have hnone := List.all_eq_true.1 (List.all_eq_true.1 htags _ h) c hlower
  rw [hblank] at hnone
  cases hnone

/-- No spelling belongs to two languages. -/
theorem find?_tags_eq_some_iff {spelling : String} :
    all.find? (fun l => l.tags.contains spelling) = some l ↔ spelling ∈ l.tags := by
  constructor
  · intro h
    simpa using List.find?_some h
  · intro h
    have htags : ∀ l : Language, ∀ name ∈ l.tags,
        all.find? (fun l => l.tags.contains name) = some l := by
      intro l
      cases l <;> decide
    exact htags l spelling h

theorem ofTag?_eq_some_iff : ofTag? tag = some l ↔ Spells tag l := by
  show all.find? (fun l => l.tags.contains (String.ofList (lower (trim tag.toList)))) = _ ↔ _
  rw [find?_tags_eq_some_iff]
  constructor
  · intro h
    obtain ⟨before, after, htag, hbefore, hafter⟩ := exists_trim tag.toList
    exact ⟨before, trim tag.toList, after, htag, hbefore, hafter, h⟩
  · rintro ⟨before, core, after, htag, hbefore, hafter, h⟩
    rwa [htag, trim_append hbefore hafter (isBlank_eq_false_of_tags h)]

theorem ofTag_eq_ok_iff : ofTag tag = .ok l ↔ Spells tag l := by
  rw [← ofTag?_eq_some_iff, ofTag]
  cases ofTag? tag <;> simp

/-- Any other tag is told as it was given. -/
theorem ofTag_eq_error_iff :
    ofTag tag = .error f ↔ f = .unsupportedLanguage tag ∧ ∀ l, ¬Spells tag l := by
  simp only [← ofTag?_eq_some_iff, ofTag]
  cases ofTag? tag with
  | none => simp [eq_comm]
  | some l => simp

end Language

end Playground
