import Biblio.Equiv.Search
import Biblio.Pagination
import Biblio.Text.Decimal

/-!
# Page numbers

Both controllers let every signed 64-bit integer through (`getInt_toString`, `castInt_toString`),
and `findBySearchCriteria` subtracts and multiplies whatever it gets.  The offset is one that the
database can be asked for exactly from page 1 to page 1024819115206086201, the last whose offset
is an integer of PHP; below and above, the request ends in an internal error
(`page_arithmetic_iff`).
-/

namespace Biblio

/-! ### The text of an integer -/

section Text

theorem numericBlank_of_isDigit {c : Char} (hc : c.isDigit = true) : numericBlank c = false := by
  by_contra h
  simp only [numericBlank, filterBlank, Bool.not_eq_false, Bool.or_eq_true, beq_iff_eq] at h
  rcases h with ((((rfl | rfl) | rfl) | rfl) | rfl) | rfl <;> cases hc

/-- A text without blanks at its ends is not trimmed. -/
theorem trim_eq_self {l : List Char} (h : ∀ c ∈ l, numericBlank c = false) :
    l.dropWhile numericBlank = l ∧ (l.dropWhile filterBlank).rdropWhile filterBlank = l := by
  have hfilter : ∀ c ∈ l, ¬ filterBlank c = true := by
    intro c hc hblank
    have := h c hc
    rw [numericBlank, hblank] at this
    cases this
  refine ⟨?_, ?_⟩
  · exact List.dropWhile_eq_self_iff.mpr fun hl => by simp [h _ (List.getElem_mem hl)]
  · rw [List.dropWhile_eq_self_iff.mpr fun hl => hfilter _ (List.getElem_mem hl)]
    exact List.rdropWhile_eq_self_iff.mpr fun hl => hfilter _ (List.getLast_mem hl)

/-- The sign of an integer, as it multiplies. -/
def signeDe (p : ℤ) : ℤ := if 0 ≤ p then 1 else -1

theorem signeDe_mul_digits (p : ℤ) :
    signeDe p * (Nat.ofDigitChars 10 (Nat.toDigits 10 p.natAbs) 0 : ℕ) = p := by
  rw [Nat.ofDigitChars_ten_toDigits, signeDe]
  split <;> omega

theorem blank_of_mem_toString {p : ℤ} {c : Char} (hc : c ∈ (toString p).toList) :
    numericBlank c = false := by
  rw [toList_toString] at hc
  split at hc
  · exact numericBlank_of_isDigit (isDigit_of_mem hc)
  · rcases List.mem_cons.mp hc with rfl | hc
    · rfl
    · exact numericBlank_of_isDigit (isDigit_of_mem hc)

theorem signe_of_isDigit {c : Char} {l : List Char} (hc : c.isDigit = true) :
    signe (c :: l) = (1, c :: l) := by
  unfold signe
  split
  · next h => cases h; cases hc
  · next h => cases h; cases hc
  · rfl

theorem signe_toString (p : ℤ) :
    signe (toString p).toList = (signeDe p, Nat.toDigits 10 p.natAbs) := by
  rw [toList_toString, signeDe]
  split
  · have hne : Nat.toDigits 10 p.natAbs ≠ [] := Nat.toDigits_ne_nil
    obtain ⟨c, l, hcl⟩ := List.exists_cons_of_ne_nil hne
    rw [hcl]
    exact signe_of_isDigit (isDigit_of_mem (hcl ▸ List.mem_cons_self))
  · rfl

variable {p : ℤ} (hp : phpIntMin ≤ p ∧ p ≤ phpIntMax)

include hp

theorem filterValidateInt_toString : filterValidateInt (toString p) = some p := by
  have htrim := (trim_eq_self fun c (hc : c ∈ (toString p).toList) => blank_of_mem_toString hc).2
  rw [filterValidateInt, htrim, filterParseInt, signe_toString]
  rcases eq_or_ne p 0 with rfl | h0
  · rfl
  · have hhead := head_toDigits (n := p.natAbs) (by omega)
    have hne : Nat.toDigits 10 p.natAbs ≠ ['0'] := by
      intro h
      rw [h] at hhead
      cases hhead
    simp only [signeDe_mul_digits, hhead, all_isDigit_toDigits, if_neg hne, if_pos hp,
      Bool.and_true, if_true]

theorem intval_toString (strtod : String → ℤ) : intval strtod (toString p) = p := by
  have htrim := (trim_eq_self fun c (hc : c ∈ (toString p).toList) => blank_of_mem_toString hc).1
  have hall : ∀ c ∈ Nat.toDigits 10 p.natAbs, c.isDigit = true := fun c => isDigit_of_mem
  have htake := List.takeWhile_eq_self_iff.mpr hall
  have hdrop := List.dropWhile_eq_nil_iff.mpr hall
  have hne : Nat.toDigits 10 p.natAbs ≠ [] := Nat.toDigits_ne_nil
  simp only [intval, htrim, signe_toString, htake, hdrop, signeDe_mul_digits, if_neg hne, flottant]
  rw [if_neg (by decide), saturer]
  omega

/-- **Every integer of PHP** is the page number of a request that both controllers let through. -/
theorem getInt_toString : (Param.text (toString p)).getInt = some p :=
  filterValidateInt_toString hp

theorem castInt_toString (strtod : String → ℤ) :
    (Param.text (toString p)).castInt strtod = some p :=
  congrArg some (intval_toString hp strtod)

end Text

/-! ### The offset -/

/-- The request for page `p` is safe: its offset is an integer of PHP and not negative, and it is
answered with a page. -/
structure PageSure {β : Type} (p : ℤ) (r : ReponsePage β) : Prop where
  nonneg : 0 ≤ (p - 1) * limite
  le_max : (p - 1) * limite ≤ phpIntMax
  answered : ∃ res, r = .page res

/-- The pages whose offset the database can be asked for. -/
def PageAdmise (p : ℤ) : Prop := 1 ≤ p ∧ p ≤ 1024819115206086201

theorem pageAdmise_iff_offset {p : ℤ} :
    PageAdmise p ↔ 0 ≤ (p - 1) * limite ∧ (p - 1) * limite ≤ phpIntMax := by
  unfold PageAdmise limite phpIntMax
  omega

/-- A search is run for these pages. -/
theorem exists_paginer_of_admise {β : Type} (ordre : Ordre) (ids : List ℕ)
    (charger : List ℕ → List β) {p : ℤ} (hp : PageAdmise p) :
    ∃ res, paginer ordre ids charger p limite = some res :=
  ⟨_, paginer_eq ordre ids charger hp.1 (pageAdmise_iff_offset.mp hp).2⟩

/-- A controller in front of a search answers safely exactly for these pages. -/
theorem pageSure_iff {β : Type} {index : ℤ → Option (Resultat β)}
    (hindex : ∀ p, PageAdmise p → ∃ res, index p = some res) {page : Option ℤ} {p : ℤ}
    (hp : page = some p) : PageSure p (repondrePage page index) ↔ PageAdmise p := by
  constructor
  · intro h
    exact pageAdmise_iff_offset.mpr ⟨h.nonneg, h.le_max⟩
  · intro h
    obtain ⟨hnonneg, hle⟩ := pageAdmise_iff_offset.mp h
    obtain ⟨res, hres⟩ := hindex p h
    refine ⟨hnonneg, hle, res, ?_⟩
    rw [hp, repondrePage, hres]

/-- **Page arithmetic.**  Whatever stands in the query string: if a controller lets a page number
through, the offset is an integer of PHP that is not negative and the request is answered with a
page, if and only if the number is between 1 and 1024819115206086201. -/
theorem page_arithmetic_iff (strtod : String → ℤ) (like : String → String → Bool) (ordre : Ordre)
    (c : Catalogue) (params : List (String × String)) (page : Param) (p : ℤ) :
    (page.getInt = some p →
      (PageSure p (LivreController.get like ordre c params page) ↔ PageAdmise p)) ∧
    (page.castInt strtod = some p →
      (PageSure p (AuteurController.get strtod like ordre c params page) ↔ PageAdmise p)) := by
  constructor
  · apply pageSure_iff
    intro p hp
    simp only [LivreController.index, LivreRepository.findBySearchCriteria]
    exact exists_paginer_of_admise ordre _ _ hp
  · apply pageSure_iff
    intro p hp
    simp only [AuteurController.index, AuteurRepository.findBySearchCriteria]
    exact exists_paginer_of_admise ordre _ _ hp

/-- The second page. -/
theorem page_arithmetic_second_page :
    PageSure 2 (LivreController.get Exemple.like .direct Exemple.catalogue [] (.text " +2")) ∧
      PageSure 2 (AuteurController.get (fun _ => 0) Exemple.like .direct Exemple.catalogue []
        (.text "2 pages")) := by
  have hp : PageAdmise 2 := ⟨by decide, by decide⟩
  have hlivres := (page_arithmetic_iff (fun _ => 0) Exemple.like .direct Exemple.catalogue []
    (.text " +2") 2).1 (by decide)
  have hauteurs := (page_arithmetic_iff (fun _ => 0) Exemple.like .direct Exemple.catalogue []
    (.text "2 pages") 2).2 (by decide)
  exact ⟨hlivres.mpr hp, hauteurs.mpr hp⟩

/-- Page 0 of the books, a page of authors that is no number, and the last integer of PHP: the
offset is negative or no integer, and the requests end in an internal error. -/
theorem page_arithmetic_fails :
    let livres := LivreController.get Exemple.like .direct Exemple.catalogue []
    let auteurs := AuteurController.get (fun _ => 0) Exemple.like .direct Exemple.catalogue []
    (Param.text "0").getInt = some 0 ∧ livres (.text "0") = .erreur ∧
      ¬ PageSure 0 (livres (.text "0")) ∧
      (Param.text "abc").castInt (fun _ => 0) = some 0 ∧ auteurs (.text "abc") = .erreur ∧
      livres (.text "9223372036854775807") = .erreur ∧
      auteurs (.text "9223372036854775807") = .erreur := by
  intro livres auteurs
  have hzero : ¬ PageSure 0 (livres (.text "0")) := fun h => absurd h.nonneg (by decide)
  exact ⟨by decide, by decide, hzero, by decide, by decide, by decide, by decide⟩

end Biblio
