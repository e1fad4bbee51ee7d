import Biblio.Equiv.Search

/-!
# The text of a search

A string typed in a search box goes through the test `if (titre)` of the client, the test `empty()`
of the repository, which also drops `"0"`, and into a `LIKE` pattern, where `%`, `_` and the
backslash keep their meaning.  So the search is the one for a substring exactly when the string is
not `"0"` and has none of these characters (`Litteral`), or else is so long that no value of its
column matches it either way (`TropLong`).

For one direction the two tests are compared string by string; for the other, `temoin` is a value
that the test of the code lets through and that contains the string only if it is literal, and the
catalogue `unLivre` has one book with these values.
-/

namespace Biblio

open Like (Collation)

variable (coll : Collation)

/-- A string that is searched for as it stands. -/
def Litteral (s : String) : Prop := s ≠ "0" ∧ ∀ c ∈ s.toList, Like.special c = false

/-- A value that matches the string has more characters than a column of `n` holds: `%` and a
backslash before another character need none, every other character one. -/
def TropLong (n : ℕ) (s : String) : Prop := n < (Like.sample s).length

/-! ### One string and one value -/

theorem truthy_some_iff {s : String} : truthy (some s) = true ↔ s ≠ "" ∧ s ≠ "0" := by
  simp [truthy]

theorem Litteral.truthy_iff {s : String} (h : Litteral s) : truthy (some s) = true ↔ s ≠ "" := by
  rw [truthy_some_iff]
  exact and_iff_left h.1

/-- A literal string is searched for as a substring. -/
theorem Litteral.like_iff {s : String} (h : Litteral s) (value : String) :
    Like.like coll.fold value (motif (some s)) = true ↔ Like.Contains coll.fold value s :=
  Like.like_pattern_iff coll.fold h.2 value

/-- A string that needs more characters than the column has is in use as a criterion. -/
theorem TropLong.truthy {n : ℕ} {s : String} (h : TropLong n s) (hn : 1 ≤ n) :
    truthy (some s) = true := by
  rw [truthy_some_iff]
  constructor
  · rintro rfl
    have hzero : (Like.sample "").length = 0 := by decide
    unfold TropLong at h
    omega
  · rintro rfl
    have hone : (Like.sample "0").length = 1 := by decide
    unfold TropLong at h
    omega

theorem TropLong.not_like {n : ℕ} {s : String} (h : TropLong n s) {value : String}
    (hvalue : value.length ≤ n) : Like.like coll.fold value (motif (some s)) = false := by
  rw [Bool.eq_false_iff]
  intro hlike
  have hle : (Like.sample s).length ≤ value.length := Like.length_sample_le coll.fold hlike
  unfold TropLong at h
  omega

theorem TropLong.not_contains {n : ℕ} {s : String} (h : TropLong n s) {value : String}
    (hvalue : value.length ≤ n) : ¬ Like.Contains coll.fold value s := by
  intro hcontains
  have := Like.length_sample_le_of_contains coll.fold hcontains
  unfold TropLong at h
  omega

/-- A value that the criterion lets through. -/
def temoin (s : String) : String := if s = "0" then "" else Like.sample s

theorem passe_temoin (s : String) (h : truthy (some s) = true) :
    Like.like coll.fold (temoin s) (motif (some s)) = true := by
  rw [temoin, if_neg (truthy_some_iff.mp h).2]
  exact Like.like_sample coll.fold s

/-- It contains the string only if that is literal. -/
theorem litteral_of_contient_temoin {s : String}
    (h : s ≠ "" → Like.Contains coll.fold (temoin s) s) : Litteral s := by
  by_cases hvide : s = ""
  · subst hvide
    exact ⟨by decide, by simp⟩
  · have hcontains := h hvide
    unfold temoin at hcontains
    split_ifs at hcontains with hzero
    · subst hzero
      exact absurd hcontains.length_le (by simp)
    · exact ⟨hzero, Like.literal_of_contains coll hcontains⟩

theorem length_temoin_le {n : ℕ} {s : String} (h : ¬ TropLong n s) : (temoin s).length ≤ n := by
  unfold temoin
  split_ifs
  · exact Nat.zero_le _
  · exact not_lt.mp h

/-! ### What the search finds -/

/-- A book is on one of the pages that the client loads for the three boxes. -/
def LivreTrouve (ordre : Ordre) (c : Catalogue) (titre auteur categorie : String) (l : LivreRow) :
    Prop :=
  ∃ p, SurPage LivreLu.id (fun p => LivreController.index (Like.like coll.fold) ordre c
    (ApiService.getLivres titre auteur categorie p)) l.id p

/-- The fields of a book contain what is typed in the boxes that are not blank. -/
def Contient (c : Catalogue) (titre auteur categorie : String) (l : LivreRow) : Prop :=
  (titre ≠ "" → Like.Contains coll.fold l.titre titre) ∧
    (auteur ≠ "" → ∃ a ∈ c.auteursDe l,
      Like.Contains coll.fold a.nom auteur ∨ Like.Contains coll.fold a.prenom auteur) ∧
    (categorie ≠ "" → ∃ k ∈ c.categoriesDe l, Like.Contains coll.fold k.nom categorie)

/-- An author is on one of the pages that the client loads for the box. -/
def AuteurTrouve (ordre : Ordre) (c : Catalogue) (nom : String) (a : AuteurRow) : Prop :=
  ∃ p, SurPage AuteurRow.id (fun p => AuteurController.index (Like.like coll.fold) ordre c
    (ApiService.getAuteurs nom p)) a.id p

/-- The name or the first name of an author contains what is typed. -/
def ContientAuteur (nom : String) (a : AuteurRow) : Prop :=
  nom ≠ "" → Like.Contains coll.fold a.nom nom ∨ Like.Contains coll.fold a.prenom nom

/-- A parameter is read as it was typed: a blank box sends none, and the default is blank. -/
theorem get_getLivres (titre auteur categorie : String) (p : ℤ) :
    (ApiService.getLivres titre auteur categorie p).get "titre" = titre ∧
      (ApiService.getLivres titre auteur categorie p).get "auteur" = auteur ∧
      (ApiService.getLivres titre auteur categorie p).get "categorie" = categorie := by
  unfold ApiService.getLivres ApiService.set Query.get
  refine ⟨?_, ?_, ?_⟩ <;> split_ifs <;> simp_all

theorem get_getAuteurs (nom : String) (p : ℤ) :
    (ApiService.getAuteurs nom p).get "nom" = nom := by
  unfold ApiService.getAuteurs ApiService.set Query.get
  split_ifs <;> simp_all

/-- A book is found exactly when the query matches it. -/
theorem livreTrouve_iff (ordre : Ordre) {c : Catalogue} (titre auteur categorie : String)
    {l : LivreRow} (hl : l ∈ c.livre.rows) :
    LivreTrouve coll ordre c titre auteur categorie l ↔
      Correspond (Like.like coll.fold) c (some titre) (some auteur) (some categorie) l := by
  have hindex : ∀ p, LivreController.index (Like.like coll.fold) ordre c
      (ApiService.getLivres titre auteur categorie p)
      = LivreRepository.findBySearchCriteria (Like.like coll.fold) ordre c (some titre)
        (some auteur) (some categorie) p limite := fun p => by
    obtain ⟨htitre, hauteur, hcategorie⟩ := get_getLivres titre auteur categorie p
    rw [LivreController.index, htitre, hauteur, hcategorie]
    rfl
  unfold LivreTrouve
  simp only [hindex]
  exact (recherche_livres _ c _ _ _).exists_surPage_iff ordre hl

theorem auteurTrouve_iff (ordre : Ordre) {c : Catalogue} (nom : String) {a : AuteurRow}
    (ha : a ∈ c.auteur.rows) :
    AuteurTrouve coll ordre c nom a ↔ CorrespondAuteur (Like.like coll.fold) (some nom) a := by
  have hindex : ∀ p, AuteurController.index (Like.like coll.fold) ordre c
      (ApiService.getAuteurs nom p)
      = AuteurRepository.findBySearchCriteria (Like.like coll.fold) ordre c (some nom) p limite :=
    fun p => by
      rw [AuteurController.index, get_getAuteurs]
      rfl
  unfold AuteurTrouve
  simp only [hindex]
  exact (recherche_auteurs _ c _).exists_surPage_iff ordre ha

/-! ### Literal strings, and strings that are too long -/

variable {c : Catalogue}

theorem mem_auteur_of_mem {l : LivreRow} {a : AuteurRow} (h : a ∈ c.auteursDe l) :
    a ∈ c.auteur.rows := by
  obtain ⟨e, -, hfind⟩ := List.mem_filterMap.mp h
  exact Table.mem_of_find hfind

theorem mem_categorie_of_mem {l : LivreRow} {k : CategorieRow} (h : k ∈ c.categoriesDe l) :
    k ∈ c.categorie.rows := by
  obtain ⟨e, -, hfind⟩ := List.mem_filterMap.mp h
  exact Table.mem_of_find hfind

theorem correspond_iff_contient {titre auteur categorie : String} (ht : Litteral titre)
    (ha : Litteral auteur) (hk : Litteral categorie) (l : LivreRow) :
    Correspond (Like.like coll.fold) c (some titre) (some auteur) (some categorie) l ↔
      Contient coll c titre auteur categorie l := by
  unfold Correspond Contient
  simp only [ht.truthy_iff, ha.truthy_iff, hk.truthy_iff, Bool.or_eq_true, ht.like_iff,
    ha.like_iff, hk.like_iff]

theorem correspondAuteur_iff_contient {nom : String} (h : Litteral nom) (a : AuteurRow) :
    CorrespondAuteur (Like.like coll.fold) (some nom) a ↔ ContientAuteur coll nom a := by
  unfold CorrespondAuteur ContientAuteur
  simp only [h.truthy_iff, Bool.or_eq_true, h.like_iff]

/-- One string that is too long for its column, and no book matches in either way. -/
theorem not_correspond_of_tropLong {titre auteur categorie : String}
    (h : TropLong 255 titre ∨ TropLong 255 auteur ∨ TropLong 100 categorie) {l : LivreRow}
    (hl : l ∈ c.livre.rows) :
    ¬ Correspond (Like.like coll.fold) c (some titre) (some auteur) (some categorie) l ∧
      ¬ Contient coll c titre auteur categorie l := by
  rcases h with h | h | h
  · have htruthy := h.truthy (by decide)
    refine ⟨fun hok => ?_, fun hok => ?_⟩
    · exact Bool.noConfusion ((hok.1 htruthy).symm.trans (h.not_like coll (c.titre_fits l hl)))
    · exact h.not_contains coll (c.titre_fits l hl) (hok.1 (truthy_some_iff.mp htruthy).1)
  · have htruthy := h.truthy (by decide)
    refine ⟨fun hok => ?_, fun hok => ?_⟩
    · obtain ⟨a, ha, hlike⟩ := hok.2.1 htruthy
      obtain ⟨hnom, hprenom⟩ := c.auteur_fits a (mem_auteur_of_mem ha)
      rw [h.not_like coll hnom, h.not_like coll hprenom] at hlike
      exact Bool.noConfusion hlike
    · obtain ⟨a, ha, hcontains⟩ := hok.2.1 (truthy_some_iff.mp htruthy).1
      obtain ⟨hnom, hprenom⟩ := c.auteur_fits a (mem_auteur_of_mem ha)
      exact hcontains.elim (h.not_contains coll hnom) (h.not_contains coll hprenom)
  · have htruthy := h.truthy (by decide)
    refine ⟨fun hok => ?_, fun hok => ?_⟩
    · obtain ⟨k, hk, hlike⟩ := hok.2.2 htruthy
      rw [h.not_like coll (c.categorie_fits k (mem_categorie_of_mem hk))] at hlike
      exact Bool.noConfusion hlike
    · obtain ⟨k, hk, hcontains⟩ := hok.2.2 (truthy_some_iff.mp htruthy).1
      exact h.not_contains coll (c.categorie_fits k (mem_categorie_of_mem hk)) hcontains

theorem not_correspondAuteur_of_tropLong {nom : String} (h : TropLong 255 nom) {a : AuteurRow}
    (ha : a ∈ c.auteur.rows) :
    ¬ CorrespondAuteur (Like.like coll.fold) (some nom) a ∧ ¬ ContientAuteur coll nom a := by
  have htruthy := h.truthy (by decide)
  obtain ⟨hnom, hprenom⟩ := c.auteur_fits a ha
  refine ⟨fun hok => ?_, fun hok => ?_⟩
  · have hlike := hok htruthy
    rw [h.not_like coll hnom, h.not_like coll hprenom] at hlike
    exact Bool.noConfusion hlike
  · have hcontains := hok (truthy_some_iff.mp htruthy).1
    exact hcontains.elim (h.not_contains coll hnom) (h.not_contains coll hprenom)

/-! ### Other strings -/

theorem nodup_un_un : [((1 : ℕ), (1 : ℕ))].Nodup := List.nodup_singleton _

/-- One book with one author, of one name and first name, and one category. -/
def unLivre (titre nom categorie : String) (htitre : titre.length ≤ 255) (hnom : nom.length ≤ 255)
    (hcategorie : categorie.length ≤ 100) : Catalogue where
  livre := Table.empty.insert ⟨0, titre, none, "Espagnol", none⟩
  auteur := Table.empty.insert ⟨0, nom, nom, none, none⟩
  categorie := Table.empty.insert ⟨0, categorie, none⟩
  livreAuteur := [(1, 1)]
  livreCategorie := [(1, 1)]
  livreAuteur_nodup := nodup_un_un
  livreCategorie_nodup := nodup_un_un
  livreAuteur_fk := by simp [Table.find, Table.insert, Table.empty]
  livreCategorie_fk := by simp [Table.find, Table.insert, Table.empty]
  livre_int := by simp [Table.insert, Table.empty, Keyed.withKey, intMax]
  auteur_int := by simp [Table.insert, Table.empty, Keyed.withKey, intMax]
  titre_fits := by
    intro r hr
    obtain rfl := List.mem_singleton.mp hr
    exact htitre
  auteur_fits := by
    intro r hr
    obtain rfl := List.mem_singleton.mp hr
    exact ⟨hnom, hnom⟩
  categorie_fits := by
    intro r hr
    obtain rfl := List.mem_singleton.mp hr
    exact hcategorie

section UnLivre

variable {titre nom categorie : String} (htitre : titre.length ≤ 255) (hnom : nom.length ≤ 255)
  (hcategorie : categorie.length ≤ 100)

theorem auteursDe_unLivre (l : LivreRow) (hl : l.id = 1) :
    (unLivre titre nom categorie htitre hnom hcategorie).auteursDe l
      = [⟨1, nom, nom, none, none⟩] := by
  rw [Catalogue.auteursDe, hl]
  rfl

theorem categoriesDe_unLivre (l : LivreRow) (hl : l.id = 1) :
    (unLivre titre nom categorie htitre hnom hcategorie).categoriesDe l
      = [⟨1, categorie, none⟩] := by
  rw [Catalogue.categoriesDe, hl]
  rfl

end UnLivre

/-- **The text of a search.**  The books found for the three boxes are, in every catalogue, those
whose fields contain what is typed, up to the folding of the collation, if and only if each string
is literal or one of them is too long for its column; the same holds for the search of authors. -/
theorem search_text_literal_iff (ordre : Ordre) (titre auteur categorie nom : String) :
    ((∀ c : Catalogue, ∀ l ∈ c.livre.rows, LivreTrouve coll ordre c titre auteur categorie l ↔
        Contient coll c titre auteur categorie l) ↔
      (Litteral titre ∧ Litteral auteur ∧ Litteral categorie) ∨
        (TropLong 255 titre ∨ TropLong 255 auteur ∨ TropLong 100 categorie)) ∧
    ((∀ c : Catalogue, ∀ a ∈ c.auteur.rows, AuteurTrouve coll ordre c nom a ↔
        ContientAuteur coll nom a) ↔ Litteral nom ∨ TropLong 255 nom) := by
  constructor
  · constructor
    · intro hall
      by_cases hlong : TropLong 255 titre ∨ TropLong 255 auteur ∨ TropLong 100 categorie
      · exact Or.inr hlong
      left
      simp only [not_or] at hlong
      obtain ⟨ht, ha, hk⟩ := hlong
      -- the book with the samples for its fields is found
      have hbook := hall (unLivre (temoin titre) (temoin auteur) (temoin categorie)
        (length_temoin_le ht) (length_temoin_le ha) (length_temoin_le hk))
        ⟨1, temoin titre, none, "Espagnol", none⟩ (List.mem_singleton.mpr rfl)
      rw [livreTrouve_iff coll ordre titre auteur categorie (List.mem_singleton.mpr rfl)] at hbook
      unfold Correspond Contient at hbook
      rw [auteursDe_unLivre _ _ _ _ rfl, categoriesDe_unLivre _ _ _ _ rfl] at hbook
      simp only [List.mem_singleton, exists_eq_left, Bool.or_self, or_self] at hbook
      have hcontient := hbook.mp ⟨passe_temoin coll titre, passe_temoin coll auteur,
        passe_temoin coll categorie⟩
      exact ⟨litteral_of_contient_temoin coll hcontient.1,
        litteral_of_contient_temoin coll hcontient.2.1,
        litteral_of_contient_temoin coll hcontient.2.2⟩
    · rintro (⟨ht, ha, hk⟩ | hlong) c l hl
      · rw [livreTrouve_iff coll ordre titre auteur categorie hl]
        exact correspond_iff_contient coll ht ha hk l
      · rw [livreTrouve_iff coll ordre titre auteur categorie hl]
        obtain ⟨hno, hno'⟩ := not_correspond_of_tropLong coll hlong hl
        exact iff_of_false hno hno'
  · constructor
    · intro hall
      by_cases hlong : TropLong 255 nom
      · exact Or.inr hlong
      left
      have hauthor := hall (unLivre "" (temoin nom) "" (by decide) (length_temoin_le hlong)
        (by decide)) ⟨1, temoin nom, temoin nom, none, none⟩ (List.mem_singleton.mpr rfl)
      rw [auteurTrouve_iff coll ordre nom (List.mem_singleton.mpr rfl)] at hauthor
      unfold CorrespondAuteur ContientAuteur at hauthor
      simp only [Bool.or_self, or_self] at hauthor
      exact litteral_of_contient_temoin coll (hauthor.mp (passe_temoin coll nom))
    · rintro (h | hlong) c a ha
      · rw [auteurTrouve_iff coll ordre nom ha]
        exact correspondAuteur_iff_contient coll h a
      · rw [auteurTrouve_iff coll ordre nom ha]
        obtain ⟨hno, hno'⟩ := not_correspondAuteur_of_tropLong coll hlong ha
        exact iff_of_false hno hno'

/-- The title of the first volume has neither a `%` nor a `0`, but it is found for both. -/
theorem search_text_percent_and_zero :
    let l : LivreRow := ⟨1, "Natus mollitia ut", none, "Espagnol", none⟩
    l ∈ Exemple.catalogue.livre.rows ∧
      (LivreTrouve Exemple.collation .direct Exemple.catalogue "%" "" "" l ∧
        ¬ Contient Exemple.collation Exemple.catalogue "%" "" "" l) ∧
      LivreTrouve Exemple.collation .direct Exemple.catalogue "0" "" "" l ∧
        ¬ Contient Exemple.collation Exemple.catalogue "0" "" "" l := by
  intro l
  have hl : l ∈ Exemple.catalogue.livre.rows := by decide
  refine ⟨hl, ⟨?_, fun h => ?_⟩, ?_, fun h => ?_⟩
  · exact (livreTrouve_iff _ _ _ _ _ hl).mpr (by decide)
  · exact absurd (h.1 (by decide)) (by decide)
  · exact (livreTrouve_iff _ _ _ _ _ hl).mpr (by decide)
  · exact absurd (h.1 (by decide)) (by decide)

end Biblio
