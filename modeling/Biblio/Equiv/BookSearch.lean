import Biblio.Equiv.BookPages
import Biblio.Equiv.SearchText

/-!
# A saved book is found

The searches read a catalogue whose rows keep to the keys, the references and the lengths of its
tables (`Catalogue`).  Every state that interleaved requests lead to is one, as long as its keys are
integers of the database: every statement keeps `Base.Saine`, and `Base.catalogue` is the catalogue
of a base.  So the pages of the staff and the search of the client go together: a book whose form a
page has accepted is on exactly one page of the search if its title, one of the authors chosen and
one of the categories chosen contain what is typed in the boxes, and otherwise on none
(`saved_book_found`).  The query of a page has no `ORDER BY`; this is about pages that are all read
in one order, whichever it is.
-/

namespace Biblio

open Prog LivreCrudController
open Like (Collation)

/-! ### The catalogue of a base -/

/-- The texts of the catalogue fit their columns. -/
structure Base.Textes (b : Base) : Prop where
  livre : ∀ r ∈ b.tables.livre.rows, r.titre.length ≤ 255
  auteur : ∀ r ∈ b.auteur.rows, r.nom.length ≤ 255 ∧ r.prenom.length ≤ 255
  categorie : ∀ r ∈ b.categorie.rows, r.nom.length ≤ 100

/-- References, keys and lengths. -/
structure Base.Saine (b : Base) : Prop where
  valides : b.Valides
  cles : b.Cles
  textes : b.Textes

/-- The keys of books and authors are values of an `INT` column. -/
structure Base.Entiers (b : Base) : Prop where
  livre : ∀ r ∈ b.tables.livre.rows, r.id ≤ intMax
  auteur : ∀ r ∈ b.auteur.rows, r.id ≤ intMax

/-- The catalogue that the searches read. -/
def Base.catalogue (b : Base) (h : b.Saine) (hint : b.Entiers) : Catalogue where
  livre := b.tables.livre
  auteur := b.auteur
  categorie := b.categorie
  livreAuteur := b.livreAuteur
  livreCategorie := b.livreCategorie
  livreAuteur_nodup := h.cles .auteurs
  livreCategorie_nodup := h.cles .categories
  livreAuteur_fk := h.valides.livreAuteur
  livreCategorie_fk := h.valides.livreCategorie
  livre_int := hint.livre
  auteur_int := hint.auteur
  titre_fits := h.textes.livre
  auteur_fits := h.textes.auteur
  categorie_fits := h.textes.categorie

/-! ### Lengths -/

/-- A column that is set, or left. -/
theorem length_changedTo_le {n : ℕ} (o v : String) {r : String} (hr : r.length ≤ n) :
    (changedTo (couper n) o v r).length ≤ n := by
  unfold changedTo
  split_ifs
  · exact hr
  · exact length_couper_le n v

section Rows

variable {ρ : Type} [Keyed ρ] {t : Table ρ} {P : ρ → Prop}

/-- What all rows meet, and a new row. -/
theorem forall_insert {r : ρ} (h : ∀ x ∈ t.rows, P x) (hr : P (Keyed.withKey t.next r)) :
    ∀ x ∈ (t.insert r).rows, P x := by
  intro x hx
  rcases Table.mem_insert.mp hx with hx | rfl
  · exact h x hx
  · exact hr

/-- What all rows meet, if it survives a change of one. -/
theorem forall_update {i : ℕ} {f : ρ → ρ} (h : ∀ x ∈ t.rows, P x)
    (hf : ∀ x, P x → P (Keyed.withKey i (f x))) : ∀ x ∈ (t.update i f).rows, P x := by
  intro x hx
  obtain ⟨r, hr, rfl⟩ := Table.mem_update.mp hx
  unfold Table.updateRow
  split_ifs
  · exact hf r (h r hr)
  · exact h r hr

theorem forall_delete {i : ℕ} (h : ∀ x ∈ t.rows, P x) : ∀ x ∈ (t.delete i).rows, P x :=
  fun x hx => h x (Table.mem_delete.mp hx).1

end Rows

/-- The titles fit after every statement. -/
theorem titres_exec {w : Statement} {s s' : Tables} (h : exec w s = some s')
    (hs : ∀ r ∈ s.livre.rows, r.titre.length ≤ 255) :
    ∀ r ∈ s'.livre.rows, r.titre.length ≤ 255 := by
  by_cases hcible : w.cible = .livre
  · cases w with
    | insertLivre v =>
      simp only [exec] at h
      split at h
      · split_ifs at h
        obtain rfl := Option.some.inj h
        exact forall_insert hs (length_couper_le 255 _)
      · cases h
    | updateLivre id o v =>
      simp only [exec] at h
      split at h
      · split_ifs at h
        obtain rfl := Option.some.inj h
        exact forall_update hs fun r hr => length_changedTo_le _ _ hr
      · cases h
    | deleteLivre id =>
      simp only [exec] at h
      split_ifs at h
      obtain rfl := Option.some.inj h
      exact forall_delete hs
    | _ => exact Relation.noConfusion hcible
  · rw [(exec_frame h).livre hcible]
    exact hs

theorem Base.Textes.inserer {b b' : Base} (hb : b.Textes) (c : Collection) {livre autre : ℕ}
    (h : execBase (c.inserer livre autre) b = some b') : b'.Textes := by
  rw [Collection.execBase_inserer] at h
  obtain ⟨l, -, rfl⟩ := Option.map_eq_some_iff.mp h
  cases c with
  | auteurs => exact ⟨hb.livre, hb.auteur, hb.categorie⟩
  | categories => exact ⟨hb.livre, hb.auteur, hb.categorie⟩

/-- Every statement keeps the lengths. -/
theorem textes_execBase (i : Instruction) (b b' : Base) (h : execBase i b = some b')
    (hb : b.Textes) : b'.Textes := by
  cases i with
  | prets w =>
    obtain ⟨s', hs', rfl⟩ := Option.map_eq_some_iff.mp h
    exact ⟨titres_exec hs' hb.livre, hb.auteur, hb.categorie⟩
  | insertLivre v auteurs categories =>
    obtain ⟨s', hs', h⟩ := Option.bind_eq_some_iff.mp h
    obtain ⟨b₁, h₁, h₂⟩ := Option.bind_eq_some_iff.mp h
    have hb₁ := foldlM_preserves .auteurs (fun h hb => Base.Textes.inserer hb .auteurs h) auteurs
      h₁ ⟨titres_exec hs' hb.livre, hb.auteur, hb.categorie⟩
    exact foldlM_preserves .categories (fun h hb => Base.Textes.inserer hb .categories h)
      categories h₂ hb₁
  | insertLivreAuteur livre auteur => exact hb.inserer .auteurs h
  | insertLivreCategorie livre categorie => exact hb.inserer .categories h
  | deleteLivreAuteur livre autre | deleteLivreCategorie livre autre =>
    obtain rfl := Option.some.inj h
    exact ⟨hb.livre, hb.auteur, hb.categorie⟩
  | insertAuteur v =>
    simp only [execBase] at h
    split at h
    · split_ifs at h
      obtain rfl := Option.some.inj h
      refine ⟨hb.livre, forall_insert hb.auteur ?_, hb.categorie⟩
      exact ⟨length_couper_le 255 _, length_couper_le 255 _⟩
    · cases h
  | updateAuteur id o v =>
    simp only [execBase] at h
    split at h
    · split_ifs at h
      obtain rfl := Option.some.inj h
      refine ⟨hb.livre, forall_update hb.auteur fun r hr => ?_, hb.categorie⟩
      exact ⟨length_changedTo_le _ _ hr.1, length_changedTo_le _ _ hr.2⟩
    · cases h
  | deleteAuteur id =>
    obtain rfl := Option.some.inj h
    exact ⟨hb.livre, forall_delete hb.auteur, hb.categorie⟩
  | insertCategorie v =>
    simp only [execBase] at h
    split at h
    · split_ifs at h
      obtain rfl := Option.some.inj h
      exact ⟨hb.livre, hb.auteur, forall_insert hb.categorie (length_couper_le 100 _)⟩
    · cases h
  | updateCategorie id o v =>
    simp only [execBase] at h
    split at h
    · split_ifs at h
      obtain rfl := Option.some.inj h
      exact ⟨hb.livre, hb.auteur, forall_update hb.categorie fun r hr =>
        length_changedTo_le _ _ hr⟩
    · cases h
  | deleteCategorie id =>
    obtain rfl := Option.some.inj h
    exact ⟨hb.livre, hb.auteur, forall_delete hb.categorie⟩

/-- **Every statement keeps a base sound.** -/
theorem saine_execBase (i : Instruction) (b b' : Base) (h : execBase i b = some b')
    (hb : b.Saine) : b'.Saine :=
  ⟨valides_execBase i b b' h hb.valides, cles_execBase i b b' h hb.cles,
    textes_execBase i b b' h hb.textes⟩

/-! ### The search after a page -/

/-- The pages that save the form of a book, with the book they save. -/
inductive PageLivre (services : Services) (acteur : List String) (form : Livre) (as cs : List ℕ)
    (b : Base) : HandlerBase → ℕ → Prop
  | edit (id : ℕ) : PageLivre services acteur form as cs b
      (editLie services acteur id form as cs) id
  | new : PageLivre services acteur form as cs b
      (newLie services acteur form as cs) b.tables.livre.next

/-- The title of a form, one of its authors and one of its categories contain what is typed in the
boxes that are not blank. -/
def FormeContient (coll : Collation) (b : Base) (form : Livre) (as cs : List ℕ)
    (titre auteur categorie : String) : Prop :=
  (titre ≠ "" → ∃ t, form.titre = some t ∧ Like.Contains coll.fold t titre) ∧
    (auteur ≠ "" → ∃ a ∈ b.auteur.rows, a.id ∈ as ∧
      (Like.Contains coll.fold a.nom auteur ∨ Like.Contains coll.fold a.prenom auteur)) ∧
    (categorie ≠ "" → ∃ k ∈ b.categorie.rows, k.id ∈ cs ∧ Like.Contains coll.fold k.nom categorie)

section Search

variable (coll : Collation) {services : Services} {acteur : List String} {form : Livre}
  {as cs : List ℕ} {b b' : Base} {id : ℕ}

theorem montre_of_page {p : HandlerBase} (hb : b.Saine)
    (hp : PageLivre services acteur form as cs b p id) (h : p.answer b = .enregistre) :
    Montre (form.garder (b.tables.livre.find id)) as cs id b (p.after b) := by
  cases hp with
  | edit => exact (fidele_editLie hb.valides hb.cles).montre h
  | new => exact (fidele_newLie hb.valides).montre h

/-- Rows of a table that are listed by their keys. -/
theorem mem_iff_of_perm_keys {ρ : Type} [Keyed ρ] {t : Table ρ} {l : List ρ} {cles : List ℕ}
    (hl : ∀ r ∈ l, r ∈ t.rows) (hperm : (l.map Keyed.key).Perm cles.dedup) (r : ρ) :
    r ∈ l ↔ r ∈ t.rows ∧ Keyed.key r ∈ cles := by
  have hkey : ∀ i, i ∈ l.map Keyed.key ↔ i ∈ cles := fun i =>
    hperm.mem_iff.trans List.mem_dedup
  constructor
  · intro hr
    exact ⟨hl r hr, (hkey _).mp (List.mem_map_of_mem hr)⟩
  · rintro ⟨hr, hmem⟩
    obtain ⟨r', hr', heq⟩ := List.mem_map.mp ((hkey _).mpr hmem)
    rw [← t.eq_of_key_eq (hl r' hr') hr heq]
    exact hr'

theorem auteursDe_catalogue (h : b.Saine) (hint : b.Entiers) (l : LivreRow) :
    (b.catalogue h hint).auteursDe l = b.auteursDe l.id := by
  unfold Catalogue.auteursDe Base.auteursDe lies
  rw [List.filterMap_map]
  rfl

theorem categoriesDe_catalogue (h : b.Saine) (hint : b.Entiers) (l : LivreRow) :
    (b.catalogue h hint).categoriesDe l = b.categoriesDe l.id := by
  unfold Catalogue.categoriesDe Base.categoriesDe lies
  rw [List.filterMap_map]
  rfl

/-- The book contains what is typed exactly if its form does. -/
theorem contient_iff_forme (h : b'.Saine) (hint : b'.Entiers) {row : LivreRow}
    (htitre : some row.titre = form.titre)
    (hauteurs : ((b'.auteursDe row.id).map AuteurRow.id).Perm as.dedup)
    (hcategories : ((b'.categoriesDe row.id).map CategorieRow.id).Perm cs.dedup)
    (titre auteur categorie : String) :
    Contient coll (b'.catalogue h hint) titre auteur categorie row ↔
      FormeContient coll b' form as cs titre auteur categorie := by
  -- the authors and categories of the book are the rows of the keys chosen
  have hA : ∀ a, a ∈ b'.auteursDe row.id ↔ a ∈ b'.auteur.rows ∧ a.id ∈ as :=
    mem_iff_of_perm_keys (fun a ha => by
      obtain ⟨i, -, hfind⟩ := List.mem_filterMap.mp ha
      exact Table.mem_of_find hfind) hauteurs
  have hK : ∀ k, k ∈ b'.categoriesDe row.id ↔ k ∈ b'.categorie.rows ∧ k.id ∈ cs :=
    mem_iff_of_perm_keys (fun k hk => by
      obtain ⟨i, -, hfind⟩ := List.mem_filterMap.mp hk
      exact Table.mem_of_find hfind) hcategories
  unfold Contient FormeContient
  rw [auteursDe_catalogue, categoriesDe_catalogue, ← htitre]
  simp only [hA, hK, Option.some.injEq, exists_eq_left', and_assoc]

/-- The search of the client, as that of the repository. -/
theorem index_getLivres (ordre : Ordre) (c : Catalogue) (titre auteur categorie : String) (p : ℤ) :
    LivreController.index (Like.like coll.fold) ordre c
        (ApiService.getLivres titre auteur categorie p)
      = LivreRepository.findBySearchCriteria (Like.like coll.fold) ordre c (some titre)
        (some auteur) (some categorie) p limite := by
  obtain ⟨htitre, hauteur, hcategorie⟩ := get_getLivres titre auteur categorie p
  rw [LivreController.index, htitre, hauteur, hcategorie]
  rfl

/-- A book that matches is on one page of the client. -/
theorem existsUnique_surPage_of_correspond (ordre : Ordre) {c : Catalogue}
    (titre auteur categorie : String) {l : LivreRow} (hl : l ∈ c.livre.rows)
    (hok : Correspond (Like.like coll.fold) c (some titre) (some auteur) (some categorie) l) :
    ∃! p, SurPage LivreLu.id (fun p => LivreController.index (Like.like coll.fold) ordre c
      (ApiService.getLivres titre auteur categorie p)) l.id p := by
  simp only [index_getLivres]
  obtain ⟨ids, -, hids, hpages⟩ :=
    (recherche_livres (Like.like coll.fold) c (some titre) (some auteur) (some categorie)).pages
      ordre
  exact hpages.une l.id ((hids l.id).mpr ⟨l, hl, rfl, hok⟩)

end Search

/-- **A saved book is found.**  In every state that interleaved requests lead to from a sound
database, after a page of the staff has accepted the form of a book, the database is sound, and so a
catalogue for the searches as long as its keys are integers of their columns.  For strings that are
searched for as they stand, and pages that the database reads in one order, the client then finds
the book on exactly one page if the title, as its column keeps it, one of the chosen authors and one
of the chosen categories contain what is typed, and on none otherwise. -/
theorem saved_book_found (services : Services) (coll : Collation) (b₀ : Base) (h₀ : b₀.Saine)
    (es : List (Event RequeteBase)) (acteur : List String) (form : Livre) (as cs : List ℕ)
    (p : HandlerBase) (id : ℕ) :
    let b := (run (Config.step (RequeteBase.handler services)) (Config.idle b₀) es).store
    PageLivre services acteur form as cs b p id → p.answer b = .enregistre →
      ∃ h : (p.after b).Saine, ∀ (hint : (p.after b).Entiers) (ordre : Ordre)
        (titre auteur categorie : String),
        Litteral titre → Litteral auteur → Litteral categorie →
          (FormeContient coll (p.after b) (form.garder (b.tables.livre.find id)) as cs titre auteur
              categorie →
            ∃! q, SurPage LivreLu.id (fun q => LivreController.index (Like.like coll.fold) ordre
              ((p.after b).catalogue h hint)
              (ApiService.getLivres titre auteur categorie q)) id q) ∧
          ((∃ q, SurPage LivreLu.id (fun q => LivreController.index (Like.like coll.fold) ordre
              ((p.after b).catalogue h hint)
              (ApiService.getLivres titre auteur categorie q)) id q) →
            FormeContient coll (p.after b) (form.garder (b.tables.livre.find id)) as cs titre auteur
              categorie) := by
  intro b hpage hanswer
  have hb : b.Saine := Config.store_preserves saine_execBase _ es h₀
  have hsaine : (p.after b).Saine := p.after_preserves saine_execBase hb
  obtain ⟨row, l, hrow, hlire, -, htitre, -, -, hauteurs, hcategories, -⟩ :=
    (montre_of_page hb hpage hanswer).livre
  -- what the API shows of the book is what the search reads of it
  obtain rfl : (p.after b).serialiser row = l := by
    rw [LivreController.lire, hrow] at hlire
    exact Option.some.inj hlire
  have hcategories : (((p.after b).categoriesDe row.id).map CategorieRow.id).Perm cs.dedup := by
    unfold Base.serialiser at hcategories
    rw [List.map_map] at hcategories
    exact hcategories
  obtain rfl : row.id = id := Table.key_of_find hrow
  have hmem : row ∈ (p.after b).tables.livre.rows := Table.mem_of_find hrow
  refine ⟨hsaine, fun hint ordre titre auteur categorie ht ha hk => ?_⟩
  have hiff := (correspond_iff_contient coll (c := (p.after b).catalogue hsaine hint) ht ha hk
    row).trans (contient_iff_forme coll hsaine hint htitre hauteurs hcategories titre auteur
      categorie)
  constructor
  · intro hforme
    exact existsUnique_surPage_of_correspond coll ordre titre auteur categorie hmem
      (hiff.mpr hforme)
  · intro htrouve
    exact hiff.mp ((livreTrouve_iff coll ordre titre auteur categorie hmem).mp htrouve)

/-- A new book is found by a part of its title and of the name of its author. -/
theorem saved_book_found_by_title :
    let form : Livre := ⟨none, some "Perrot", none, some "Français", none⟩
    let p := newLie Exemple.services ["ROLE_ADMIN"] form [1] [1]
    let b' := p.after (Exemple.base .empty .empty)
    ∃ (h : b'.Saine) (hint : b'.Entiers), ∃! q, SurPage LivreLu.id
      (fun q => LivreController.index (Like.like Exemple.collation.fold) Ordre.direct
        (b'.catalogue h hint) (ApiService.getLivres "perr" "gill" "" q)) 3 q := by
  intro form p b'
  have hlitteral : ∀ s : String, s ≠ "0" → (s.toList.all fun c => !Like.special c) = true →
      Litteral s := by
    intro s hzero hall
    refine ⟨hzero, fun c hc => ?_⟩
    simpa using List.all_eq_true.mp hall c hc
  have hsaine : (Exemple.base .empty .empty).Saine := by
    refine ⟨⟨⟨fun e he => ?_, fun r hr => ?_⟩, by decide, by decide⟩, fun c => ?_,
      ⟨by decide, by decide, by decide⟩⟩
    · cases he
    · cases hr
    · cases c with
      | auteurs => decide
      | categories => decide
  obtain ⟨h, hfound⟩ := saved_book_found Exemple.services Exemple.collation _ hsaine []
    ["ROLE_ADMIN"] form [1] [1] p 3 .new (by decide +kernel)
  have hint : b'.Entiers := ⟨by decide +kernel, by decide +kernel⟩
  refine ⟨h, hint, (hfound hint Ordre.direct "perr" "gill" "" (hlitteral _ (by decide) (by decide))
    (hlitteral _ (by decide) (by decide)) (hlitteral _ (by decide) (by decide))).1 ⟨?_, ?_, ?_⟩⟩
  · exact fun _ => ⟨"Perrot", by decide +kernel, by decide⟩
  · exact fun _ => ⟨⟨1, "Gillet", "Aurore", none, none⟩, by decide +kernel, by decide,
      Or.inl (by decide)⟩
  · exact fun hvide => absurd rfl hvide

end Biblio
