import Biblio.Equiv.Search

/-!
# The collections of the books found

The query of `LivreRepository::findBySearchCriteria` joins the authors and the categories both to
filter the books and to load their collections, so a book found comes with those of its authors and
categories that match (`Trouvee.mem_auteurs_iff`, `Trouvee.mem_categories_iff`).  It is the book
that `GET /api/livres/{id}` shows exactly when all of them match (`search_result_complete_iff`).
-/

namespace Biblio

open LivreRepository

/-- A book found has the authors and the categories that `LivreController::show` gives it. -/
def Complet (c : Catalogue) (x : LivreLu) : Prop :=
  ∃ y, LivreController.show c x.livre.id = some y ∧ y.livre = x.livre ∧
    (∀ a, a ∈ x.auteurs ↔ a ∈ y.auteurs) ∧ ∀ k, k ∈ x.categories ↔ k ∈ y.categories

variable {like : String → String → Bool} {c : Catalogue} {titre auteur categorie : Option String}
  {x : LivreLu}

/-- Both criteria of a kept row at once. -/
theorem garde_iff {l : LivreRow} {a : Option AuteurRow} {k : Option CategorieRow} :
    garde like titre auteur categorie ((l, a), k) = true ↔
      (!truthy titre || like l.titre (motif titre)) = true ∧
      (!truthy auteur || a.any fun a =>
        like a.nom (motif auteur) || like a.prenom (motif auteur)) = true ∧
      (!truthy categorie || k.any fun k => like k.nom (motif categorie)) = true := by
  rw [garde, Bool.and_eq_true, Bool.and_eq_true, and_assoc]

/-- A book found has a kept row, and its collections are those of all its kept rows. -/
structure Trouvee (like : String → String → Bool) (c : Catalogue)
    (titre auteur categorie : Option String) (x : LivreLu) : Prop where
  ligne : ∃ a k, ((x.livre, a), k) ∈ lignesGardees like c titre auteur categorie
  auteurs : ∀ a, a ∈ x.auteurs ↔
    ∃ k, ((x.livre, some a), k) ∈ lignesGardees like c titre auteur categorie
  categories : ∀ k, k ∈ x.categories ↔
    ∃ a, ((x.livre, a), some k) ∈ lignesGardees like c titre auteur categorie

/-- The restriction to the ids of the page takes all rows of a book or none. -/
theorem trouvee_of_mem_hydrater {w : List ℕ} (hx : x ∈ hydrater
      ((lignesGardees like c titre auteur categorie).filter fun r => w.contains r.1.1.id)) :
    Trouvee like c titre auteur categorie x := by
  simp only [hydrater, List.mem_map, List.mem_dedup, List.mem_filter] at hx
  obtain ⟨_, ⟨⟨⟨l, a₀⟩, k₀⟩, ⟨hrow, hw⟩, rfl⟩, rfl⟩ := hx
  refine ⟨⟨a₀, k₀, hrow⟩, fun a => ?_, fun k => ?_⟩
  · simp only [List.mem_dedup, List.mem_filterMap, List.mem_filter, beq_iff_eq]
    constructor
    · rintro ⟨⟨⟨_, _⟩, k⟩, ⟨⟨hr, -⟩, rfl⟩, rfl⟩
      exact ⟨k, hr⟩
    · rintro ⟨k, hr⟩
      exact ⟨((l, some a), k), ⟨⟨hr, hw⟩, rfl⟩, rfl⟩
  · simp only [List.mem_dedup, List.mem_filterMap, List.mem_filter, beq_iff_eq]
    constructor
    · rintro ⟨⟨⟨_, a⟩, _⟩, ⟨⟨hr, -⟩, rfl⟩, rfl⟩
      exact ⟨a, hr⟩
    · rintro ⟨a, hr⟩
      exact ⟨((l, a), some k), ⟨⟨hr, hw⟩, rfl⟩, rfl⟩

/-- The authors of a book found are those that match. -/
theorem Trouvee.mem_auteurs_iff (h : Trouvee like c titre auteur categorie x) (a : AuteurRow) :
    a ∈ x.auteurs ↔ a ∈ c.auteursDe x.livre ∧
      (truthy auteur = true →
        (like a.nom (motif auteur) || like a.prenom (motif auteur)) = true) := by
  obtain ⟨a₀, k₀, hrow⟩ := h.ligne
  obtain ⟨hl, -, hk₀, hgarde⟩ := (mem_lignesGardees ..).mp hrow
  obtain ⟨htitre, -, hcategorie⟩ := garde_iff.mp hgarde
  rw [h.auteurs]
  simp only [mem_lignesGardees, some_mem_orNull, garde_iff, Option.any_some]
  constructor
  · rintro ⟨k, -, ha, -, -, hauteur, -⟩
    exact ⟨ha, by simpa [imp_iff_not_or] using hauteur⟩
  · rintro ⟨ha, hauteur⟩
    -- the kept row gives the category to pair the author with
    exact ⟨k₀, hl, ha, hk₀, htitre, by simpa [imp_iff_not_or] using hauteur, hcategorie⟩

/-- The categories of a book found are those that match. -/
theorem Trouvee.mem_categories_iff (h : Trouvee like c titre auteur categorie x)
    (k : CategorieRow) :
    k ∈ x.categories ↔ k ∈ c.categoriesDe x.livre ∧
      (truthy categorie = true → like k.nom (motif categorie) = true) := by
  obtain ⟨a₀, k₀, hrow⟩ := h.ligne
  obtain ⟨hl, ha₀, -, hgarde⟩ := (mem_lignesGardees ..).mp hrow
  obtain ⟨htitre, hauteur, -⟩ := garde_iff.mp hgarde
  rw [h.categories]
  simp only [mem_lignesGardees, some_mem_orNull, garde_iff, Option.any_some]
  constructor
  · rintro ⟨a, -, -, hk, -, -, hcategorie⟩
    exact ⟨hk, by simpa [imp_iff_not_or] using hcategorie⟩
  · rintro ⟨hk, hcategorie⟩
    exact ⟨a₀, hl, ha₀, hk, htitre, hauteur, by simpa [imp_iff_not_or] using hcategorie⟩

theorem Trouvee.show_eq (h : Trouvee like c titre auteur categorie x) :
    LivreController.show c x.livre.id
      = some ⟨x.livre, c.auteursDe x.livre, c.categoriesDe x.livre⟩ := by
  obtain ⟨a, k, hrow⟩ := h.ligne
  have hfind : c.livre.find x.livre.id = some x.livre :=
    (c.livre.find_eq_some_iff _ _).mpr ⟨((mem_lignesGardees ..).mp hrow).1, rfl⟩
  rw [LivreController.show, hfind]
  rfl

/-- **Complete books.**  A book on any page of a search carries the authors and categories that
`GET /api/livres/{id}` gives it if and only if the author criterion is absent or matched by all its
authors, and the category criterion absent or matched by all its categories. -/
theorem search_result_complete_iff (ordre : Ordre) {page : ℤ} {limit : ℕ}
    {res : Resultat LivreLu}
    (hres : findBySearchCriteria like ordre c titre auteur categorie page limit = some res)
    (hx : x ∈ res.data) :
    Complet c x ↔
      (truthy auteur = true → ∀ a ∈ c.auteursDe x.livre,
        (like a.nom (motif auteur) || like a.prenom (motif auteur)) = true) ∧
      (truthy categorie = true → ∀ k ∈ c.categoriesDe x.livre,
        like k.nom (motif categorie) = true) := by
  obtain ⟨offset, -, rfl⟩ := Option.map_eq_some_iff.mp hres
  have h := trouvee_of_mem_hydrater hx
  unfold Complet
  simp only [h.show_eq, Option.some.injEq, exists_eq_left', true_and, h.mem_auteurs_iff,
    h.mem_categories_iff, and_iff_left_iff_imp]
  constructor
  · rintro ⟨ha, hk⟩
    exact ⟨fun ht a hmem => ha a hmem ht, fun ht k hmem => hk k hmem ht⟩
  · rintro ⟨ha, hk⟩
    exact ⟨fun a hmem ht => ha ht a hmem, fun k hmem ht => hk ht k hmem⟩

/-- A search by title finds the first volume with both its authors. -/
theorem search_by_title_complete : ∃ res x,
    findBySearchCriteria Exemple.like .direct Exemple.catalogue (some "natus") none none 1 limite
        = some res ∧ x ∈ res.data ∧ x.livre.id = 1 ∧ Complet Exemple.catalogue x := by
  have hsome : ((findBySearchCriteria Exemple.like .direct Exemple.catalogue (some "natus") none
      none 1 limite).bind fun res => res.data.find? fun x => x.livre.id == 1).isSome = true := by
    decide
  obtain ⟨x, hx⟩ := Option.isSome_iff_exists.mp hsome
  obtain ⟨res, hres, hfind⟩ := Option.bind_eq_some_iff.mp hx
  have hmem := List.mem_of_find?_eq_some hfind
  refine ⟨res, x, hres, hmem, by simpa using List.find?_some hfind, ?_⟩
  exact (search_result_complete_iff .direct hres hmem).mpr ⟨nofun, nofun⟩

/-- A search by one of its authors finds the same book without the other. -/
theorem search_by_author_incomplete :
    let x : LivreLu := ⟨⟨1, "Natus mollitia ut", none, "Espagnol", none⟩,
      [⟨2, "Roche", "Emmanuel", none, none⟩], [⟨1, "Roman", none⟩]⟩
    (findBySearchCriteria Exemple.like .direct Exemple.catalogue none (some "roche") none 1
        limite).map Resultat.data = some [x] ∧
      ((LivreController.show Exemple.catalogue 1).map fun y => y.auteurs.map AuteurRow.id)
        = some [1, 2] ∧ ¬ Complet Exemple.catalogue x := by
  intro x
  refine ⟨by decide, by decide, ?_⟩
  rintro ⟨y, hy, -, hauteurs, -⟩
  have hids : ((LivreController.show Exemple.catalogue x.livre.id).map fun y =>
      y.auteurs.contains ⟨1, "Gillet", "Aurore", none, none⟩) = some true := by decide
  rw [hy, Option.map_some, Option.some.injEq, List.contains_iff_mem, ← hauteurs] at hids
  exact absurd hids (by decide)

end Biblio
