import Biblio.Equiv.BookLinks
import Biblio.Equiv.Seed
import Biblio.LivreDetail

/-!
# The pages of a book and what the API shows

The pages NEW and EDIT of the books write a row and the differences of two collections; the API
shows the row and what it is linked to.  In every state that interleaved requests lead to, a form
that one of the pages accepts is what the API shows afterwards, every other book is shown as before,
and a form that is not accepted leaves the database as it was (`book_pages_round_trip`).

`Livre.garder` is what the columns keep of a form, which is all of it as the texts of a form are
trimmed (`Livre.garder_eq_self`).  `synchronise` is what the statements on a link table come to: the
links of a book that the form keeps, and then the new ones.
-/

namespace Biblio

open Prog LivreCrudController

/-! ### Link tables -/

/-- A link table after the statements for the links of `livre` to those chosen. -/
def synchronise (livre : ℕ) (choisis : List ℕ) (liens : Liens) : Liens :=
  (liens.filter fun e => e.1 != livre || choisis.contains e.2) ++
    (choisis.dedup.filter fun a => !(lies livre liens).contains a).map fun a => (livre, a)

section Tables

variable {livre : ℕ} {choisis : List ℕ} {liens : Liens}

theorem lies_append (liens liens' : Liens) :
    lies livre (liens ++ liens') = lies livre liens ++ lies livre liens' := by
  unfold lies
  rw [List.filter_append, List.map_append]

/-- The links of a book, one after the other. -/
theorem lies_map_self (autres : List ℕ) : lies livre (autres.map fun a => (livre, a)) = autres := by
  unfold lies
  rw [List.filter_eq_self.mpr, List.map_map]
  · exact List.map_id autres
  · intro e he
    obtain ⟨a, -, rfl⟩ := List.mem_map.mp he
    exact beq_self_eq_true livre

theorem lies_map_of_ne {j : ℕ} (hj : j ≠ livre) (autres : List ℕ) :
    lies j (autres.map fun a => (livre, a)) = [] := by
  unfold lies
  rw [List.filter_eq_nil_iff.mpr, List.map_nil]
  intro e he
  obtain ⟨a, -, rfl⟩ := List.mem_map.mp he
  simpa using Ne.symm hj

theorem nodup_lies (h : liens.Nodup) (j : ℕ) : (lies j liens).Nodup := by
  refine (List.nodup_map_iff_inj_on (h.filter _)).mpr fun e he e' he' heq => ?_
  have hfst := beq_iff_eq.mp (List.mem_filter.mp he).2
  have hfst' := beq_iff_eq.mp (List.mem_filter.mp he').2
  exact Prod.ext (hfst.trans hfst'.symm) heq

/-- The other books keep their links. -/
theorem lies_synchronise_of_ne {j : ℕ} (hj : j ≠ livre) :
    lies j (synchronise livre choisis liens) = lies j liens := by
  unfold synchronise
  rw [lies_append, lies_map_of_ne hj, List.append_nil]
  unfold lies
  rw [List.filter_filter]
  refine congrArg (List.map Prod.snd) (List.filter_congr fun e _ => ?_)
  cases he : e.1 == j with
  | false => rfl
  | true =>
    rw [beq_iff_eq.mp he]
    simp [hj]

/-- The book is linked to those chosen, to each once. -/
theorem lies_synchronise_perm (h : liens.Nodup) :
    (lies livre (synchronise livre choisis liens)).Perm choisis.dedup := by
  have hkept : lies livre (liens.filter fun e => e.1 != livre || choisis.contains e.2)
      = (lies livre liens).filter fun a => choisis.contains a := by
    unfold lies
    rw [List.filter_filter, List.filter_map, List.filter_filter]
    refine congrArg (List.map Prod.snd) (List.filter_congr fun e _ => ?_)
    cases he : e.1 == livre <;> simp [bne, he]
  unfold synchronise
  rw [lies_append, hkept, lies_map_self]
  -- both lists are without repetition, so they are compared by their elements
  refine (List.perm_ext_iff_of_nodup ?_ choisis.nodup_dedup).mpr fun a => ?_
  · refine List.nodup_append.mpr ⟨(nodup_lies h livre).filter _, choisis.nodup_dedup.filter _, ?_⟩
    rintro a ha _ ha' rfl
    have hlie := (List.mem_filter.mp ha).1
    simpa [hlie] using (List.mem_filter.mp ha').2
  · simp only [List.mem_append, List.mem_filter, List.mem_dedup, List.contains_iff_mem,
      Bool.not_eq_true', ← Bool.not_eq_true]
    by_cases hlie : a ∈ lies livre liens
    · simp [hlie]
    · simp [hlie]

end Tables

/-! ### Units of work -/

namespace Collection

variable (c : Collection) {livre : ℕ} {b : Base}

theorem commit_supprimer (livre : ℕ) : ∀ (autres : List ℕ) (b : Base),
    commit (autres.map (c.supprimer livre)) b = some (c.poser b
      ((c.liens b).filter fun e => e.1 != livre || !autres.contains e.2))
  | [], b => by
    have hall : ((c.liens b).filter fun e => e.1 != livre || !List.contains [] e.2) = c.liens b :=
      List.filter_eq_self.mpr fun e _ => by simp
    rw [hall]
    cases c <;> rfl
  | a :: autres, b => by
    have hexec : Database.exec (c.supprimer livre a) b
        = some (c.poser b ((c.liens b).retirer livre a)) := c.execBase_supprimer livre a b
    rw [List.map_cons, commit, hexec, Option.bind_some, commit_supprimer livre autres,
      liens_poser, Liens.retirer, List.filter_filter]
    have hfilter : ((c.liens b).filter fun e =>
        (e.1 != livre || !autres.contains e.2) && e != (livre, a))
          = (c.liens b).filter fun e => e.1 != livre || !(a :: autres).contains e.2 := by
      refine List.filter_congr fun e _ => ?_
      obtain ⟨l, x⟩ := e
      have hpair : ((l, x) == (livre, a)) = (l == livre && x == a) := rfl
      rw [List.contains_cons, bne, bne, hpair]
      cases l == livre <;> cases x == a <;> simp
    rw [hfilter]
    cases c <;> rfl

theorem commit_inserer (hlivre : b.tables.hasLivre livre = true) {autres : List ℕ}
    (hautres : ∀ a ∈ autres, c.has b a = true) (hnodup : autres.Nodup)
    (hnew : ∀ a ∈ autres, (livre, a) ∉ c.liens b) :
    commit (autres.map (c.inserer livre)) b
      = some (c.poser b (c.liens b ++ autres.map fun a => (livre, a))) := by
  have hfold : ∀ (l : List ℕ) (b : Base), commit (l.map (c.inserer livre)) b
      = l.foldlM (fun b a => execBase (c.inserer livre a) b) b := by
    intro l
    induction l with
    | nil => exact fun _ => rfl
    | cons a l ih =>
      intro b
      rw [List.map_cons, commit, List.foldlM_cons]
      exact congrArg _ (funext ih)
  have hput : b = c.poser b (c.liens b) := by
    cases c <;> rfl
  rw [hfold]
  conv_lhs => rw [hput]
  refine foldlM_inserer (c.poser b) (fun liens a => ?_) hlivre hautres hnodup hnew
  rw [execBase_inserer, liens_poser, tables_poser, has_poser]
  refine congrArg (Option.map · _) (funext fun l => ?_)
  cases c <;> rfl

/-- The statements for the links of a book that is there to rows that are there. -/
theorem commit_synchroniser (livre : ℕ) (hlivre : b.tables.hasLivre livre = true) (choisis : List ℕ)
    (hchoisis : ∀ a ∈ choisis, c.has b a = true) :
    commit (synchroniser (c.supprimer livre) (c.inserer livre) (lies livre (c.liens b)) choisis) b
      = some (c.poser b (synchronise livre choisis (c.liens b))) := by
  have hkept : ((c.liens b).filter fun e => e.1 != livre ||
        !((lies livre (c.liens b)).filter fun a => !choisis.contains a).contains e.2)
      = (c.liens b).filter fun e => e.1 != livre || choisis.contains e.2 := by
    refine List.filter_congr fun e he => ?_
    obtain ⟨l, a⟩ := e
    by_cases hl : l = livre
    · subst hl
      have hlie : a ∈ lies l (c.liens b) := mem_lies.mpr he
      simp [hlie]
    · have hne : (l != livre) = true := bne_iff_ne.mpr hl
      simp only [hne, Bool.true_or]
  -- the links dropped go first, so those that are inserted are new where they were not there
  unfold synchroniser
  rw [commit_append, commit_supprimer, Option.bind_some, hkept, commit_inserer]
  · rw [liens_poser]
    cases c <;> rfl
  · rw [tables_poser]
    exact hlivre
  · intro a ha
    rw [has_poser]
    exact hchoisis a (List.mem_dedup.mp (List.mem_of_mem_filter ha))
  · exact choisis.nodup_dedup.filter _
  · intro a ha hmem
    rw [liens_poser] at hmem
    have hlie : a ∈ lies livre (c.liens b) := mem_lies.mpr (List.mem_filter.mp hmem).1
    simpa [hlie] using (List.mem_filter.mp ha).2

end Collection

/-! ### Keys of the link tables -/

/-- The pairs of a link table are its keys. -/
def Base.Cles (b : Base) : Prop := ∀ c : Collection, (c.liens b).Nodup

section Keys

variable {b b' : Base}

/-- One link table has changed. -/
theorem Base.Cles.poser (hb : b.Cles) (c : Collection) {l : Liens} (hl : l.Nodup) :
    (c.poser b l).Cles := by
  intro c'
  by_cases hc : c' = c
  · subst hc
    rw [Collection.liens_poser]
    exact hl
  · rw [Collection.liens_poser_of_ne hc]
    exact hb c'

theorem Base.Cles.inserer (hb : b.Cles) (c : Collection) {livre autre : ℕ}
    (h : execBase (c.inserer livre autre) b = some b') : b'.Cles := by
  rw [Collection.execBase_inserer] at h
  obtain ⟨l, hl, rfl⟩ := Option.map_eq_some_iff.mp h
  obtain ⟨hnew, rfl⟩ := Liens.inserer_eq_some hl
  refine hb.poser c (List.nodup_append.mpr ⟨hb c, List.nodup_singleton _, ?_⟩)
  rintro e he _ he' rfl
  rw [List.mem_singleton.mp he'] at he
  exact hnew he

/-- What every insertion of a link keeps, several of them keep. -/
theorem foldlM_preserves {I : Base → Prop} (c : Collection) {livre : ℕ}
    (hI : ∀ {a b b'}, execBase (c.inserer livre a) b = some b' → I b → I b') :
    ∀ (l : List ℕ) {b b' : Base},
      l.foldlM (fun b a => execBase (c.inserer livre a) b) b = some b' → I b → I b'
  | [], _, _, h, hb => Option.some.inj h ▸ hb
  | a :: l, b, b', h, hb => by
    obtain ⟨b₁, h₁, h₂⟩ := Option.bind_eq_some_iff.mp h
    exact foldlM_preserves c hI l h₂ (hI h₁ hb)

theorem Base.Cles.cascade (hb : b.Cles) (w : Statement) (s : Tables) :
    Base.Cles { b with
      tables := s
      livreAuteur := w.cascade b.livreAuteur
      livreCategorie := w.cascade b.livreCategorie } := by
  have hliens : ∀ l : Liens, l.Nodup → (w.cascade l).Nodup := by
    intro l hl
    cases w with
    | deleteLivre id => exact hl.filter _
    | _ => exact hl
  intro c
  cases c with
  | auteurs => exact hliens _ (hb .auteurs)
  | categories => exact hliens _ (hb .categories)

/-- Every statement keeps the keys. -/
theorem cles_execBase (i : Instruction) (b b' : Base) (h : execBase i b = some b') (hb : b.Cles) :
    b'.Cles := by
  cases i with
  | prets w =>
    obtain ⟨s', -, rfl⟩ := Option.map_eq_some_iff.mp h
    exact hb.cascade w s'
  | insertLivre v auteurs categories =>
    obtain ⟨s', -, h⟩ := Option.bind_eq_some_iff.mp h
    obtain ⟨b₁, h₁, h₂⟩ := Option.bind_eq_some_iff.mp h
    have hb₁ := foldlM_preserves .auteurs (fun h hb => Base.Cles.inserer hb .auteurs h) auteurs h₁
      (hb.cascade (.insertLivre v) s')
    exact foldlM_preserves .categories (fun h hb => Base.Cles.inserer hb .categories h) categories
      h₂ hb₁
  | insertLivreAuteur livre auteur => exact hb.inserer .auteurs h
  | deleteLivreAuteur livre auteur =>
    obtain rfl := Option.some.inj h
    exact hb.poser .auteurs ((hb .auteurs).filter _)
  | insertLivreCategorie livre categorie => exact hb.inserer .categories h
  | deleteLivreCategorie livre categorie =>
    obtain rfl := Option.some.inj h
    exact hb.poser .categories ((hb .categories).filter _)
  | deleteAuteur id =>
    obtain rfl := Option.some.inj h
    have hposer := hb.poser .auteurs ((hb .auteurs).filter fun e => e.2 != id)
    intro c
    cases c with
    | auteurs => exact hposer .auteurs
    | categories => exact hposer .categories
  | deleteCategorie id =>
    obtain rfl := Option.some.inj h
    have hposer := hb.poser .categories ((hb .categories).filter fun e => e.2 != id)
    intro c
    cases c with
    | auteurs => exact hposer .auteurs
    | categories => exact hposer .categories
  | insertAuteur v | updateAuteur id o v | insertCategorie v | updateCategorie id o v =>
    simp only [execBase] at h
    split at h
    · split_ifs at h
      obtain rfl := Option.some.inj h
      intro c
      cases c with
      | auteurs => exact hb .auteurs
      | categories => exact hb .categories
    · cases h

end Keys

/-! ### What the columns keep of a form -/

/-- What the columns keep of the texts of a form for the book that was `avant`. -/
def Livre.garder (form : Livre) (avant : Option LivreRow) : Livre :=
  { form with
    titre := form.titre.map (garde (couper 255) (avant.map LivreRow.titre))
    langue := form.langue.map (garde (couper 50) (avant.map LivreRow.langue))
    photoCouverture := garde (Option.map (couper 255)) (avant.map LivreRow.photoCouverture)
      form.photoCouverture }

/-- No text of the form ends with a space: the fields of a form trim what is typed. -/
structure Livre.Taille (form : Livre) : Prop where
  titre : ∀ t, form.titre = some t → t.toList.getLast? ≠ some ' '
  langue : ∀ t, form.langue = some t → t.toList.getLast? ≠ some ' '
  photoCouverture : ∀ t, form.photoCouverture = some t → t.toList.getLast? ≠ some ' '

theorem map_garde_eq_self {n : ℕ} {v : Option String} (original : Option String)
    (h : ∀ t, v = some t → t.length ≤ n) : v.map (garde (couper n) original) = v := by
  cases v with
  | none => rfl
  | some t => exact congrArg some (garde_of_eq (couper_of_length_le (h t rfl)) original)

/-- A trimmed form that fits is kept as it is. -/
theorem Livre.garder_eq_self {form : Livre} (hfits : form.fits = true) (h : form.Taille)
    (avant : Option LivreRow) : form.garder avant = form := by
  rw [Livre.fits, Bool.and_eq_true, Bool.and_eq_true] at hfits
  obtain ⟨⟨htitre, hlangue⟩, hphoto⟩ := hfits
  unfold Livre.garder
  rw [map_garde_eq_self _ fun t ht => length_le_of_fits (ht ▸ htitre) (h.titre t ht),
    map_garde_eq_self _ fun t ht => length_le_of_fits (ht ▸ hlangue) (h.langue t ht),
    garde_map_of_length_le fun t ht => length_le_of_fits (ht ▸ hphoto) (h.photoCouverture t ht)]

@[simp] theorem Livre.titre_garder (form : Livre) (avant : Option LivreRow) :
    (form.garder avant).titre = none ↔ form.titre = none := Option.map_eq_none_iff

@[simp] theorem Livre.langue_garder (form : Livre) (avant : Option LivreRow) :
    (form.garder avant).langue = none ↔ form.langue = none := Option.map_eq_none_iff

/-! ### What the API shows -/

/-- The rows of keys that are all there, as they are listed. -/
theorem map_key_filterMap_find {ρ : Type} [Keyed ρ] (t : Table ρ) : ∀ {l : List ℕ},
    (∀ a ∈ l, (t.find a).isSome = true) → (l.filterMap t.find).map Keyed.key = l
  | [], _ => rfl
  | a :: l, h => by
    obtain ⟨r, hr⟩ := Option.isSome_iff_exists.mp (h a (List.mem_cons_self ..))
    rw [List.filterMap_cons_some hr, List.map_cons, Table.key_of_find hr,
      map_key_filterMap_find t fun x hx => h x (List.mem_cons_of_mem _ hx)]

/-- The book `id` of `b'` is what the form says, as the API shows it; its flags and all other books
are shown as in `b`, and a book that was not in `b` has no flag. -/
structure Montre (form : Livre) (as cs : List ℕ) (id : ℕ) (b b' : Base) : Prop where
  livre : ∃ row l, b'.tables.livre.find id = some row ∧ LivreController.lire b' id = some l ∧
    row.photoCouverture = form.photoCouverture ∧ some l.titre = form.titre ∧
    l.dateSortie = form.dateSortie ∧ some l.langue = form.langue ∧
    (l.auteurs.map AuteurRow.id).Perm as.dedup ∧
    (l.categories.map CategorieRead.id).Perm cs.dedup ∧
    l.isReserve = (LivreController.lire b id).any LivreRead.isReserve ∧
    l.isEmprunte = (LivreController.lire b id).any LivreRead.isEmprunte
  autres : ∀ j, j ≠ id → LivreController.lire b' j = LivreController.lire b j

/-- The base `b` with the book `id` and its links written. -/
structure Ecrite (form : Livre) (as cs : List ℕ) (id : ℕ) (b b' : Base) : Prop where
  row : ∃ row, b'.tables.livre.find id = some row ∧ row.photoCouverture = form.photoCouverture ∧
    some row.titre = form.titre ∧ row.dateSortie = form.dateSortie ∧ some row.langue = form.langue
  auteurs : (lies id b'.livreAuteur).Perm as.dedup
  categories : (lies id b'.livreCategorie).Perm cs.dedup
  livre : ∀ j, j ≠ id → b'.tables.livre.find j = b.tables.livre.find j
  autres : ∀ j, j ≠ id → lies j b'.livreAuteur = lies j b.livreAuteur ∧
    lies j b'.livreCategorie = lies j b.livreCategorie
  emprunt : b'.tables.emprunt = b.tables.emprunt
  reservations : b'.tables.reservations = b.tables.reservations
  auteur : b'.auteur = b.auteur
  categorie : b'.categorie = b.categorie

section Pages

variable {services : Services} {acteur : List String} {form : Livre} {as cs : List ℕ} {id : ℕ}
  {b b' : Base}

/-- A book that is not there has no reservation and no loan. -/
theorem lire_any (hb : References b.tables) (id : ℕ) :
    (LivreController.lire b id).any LivreRead.isReserve
        = getIsReserve (b.tables.reservations.select fun r => r.livre == id) ∧
      (LivreController.lire b id).any LivreRead.isEmprunte
        = getIsEmprunte (b.tables.emprunt.select fun e => e.livre == id) := by
  unfold LivreController.lire
  cases hfind : b.tables.livre.find id with
  | some row =>
    obtain rfl : row.id = id := Table.key_of_find hfind
    exact ⟨rfl, rfl⟩
  | none =>
    -- loans and reservations refer to books that are there
    have hno : ∀ l, b.tables.hasLivre l = true → (l == id) = false := by
      intro l hl
      rw [beq_eq_false_iff_ne]
      rintro rfl
      rw [Tables.hasLivre, hfind] at hl
      cases hl
    have hresas : (b.tables.reservations.select fun r => r.livre == id) = [] :=
      List.filter_eq_nil_iff.mpr fun r hr =>
        Bool.not_eq_true _ ▸ hno _ (hb.reservations r hr).2
    have hprets : (b.tables.emprunt.select fun e => e.livre == id) = [] :=
      List.filter_eq_nil_iff.mpr fun e he => Bool.not_eq_true _ ▸ hno _ (hb.emprunt e he).2
    rw [hresas, hprets]
    exact ⟨rfl, rfl⟩

/-- What is written is what the API shows. -/
theorem Ecrite.montre (h : Ecrite form as cs id b b') (hb : References b.tables)
    (has : ∀ a ∈ as, b.hasAuteur a = true) (hcs : ∀ c ∈ cs, b.hasCategorie c = true) :
    Montre form as cs id b b' := by
  obtain ⟨row, hrow, hphoto, htitre, hdate, hlangue⟩ := h.row
  have hid : row.id = id := Table.key_of_find hrow
  obtain ⟨hreserve, hemprunte⟩ := lire_any hb id
  have hauteurs : ((lies id b'.livreAuteur).filterMap b'.auteur.find).map AuteurRow.id
      = lies id b'.livreAuteur := by
    refine map_key_filterMap_find b'.auteur fun a ha => ?_
    rw [h.auteur]
    exact has a (List.mem_dedup.mp (h.auteurs.mem_iff.mp ha))
  have hcategories : ((lies id b'.livreCategorie).filterMap b'.categorie.find).map CategorieRow.id
      = lies id b'.livreCategorie := by
    refine map_key_filterMap_find b'.categorie fun a ha => ?_
    rw [h.categorie]
    exact hcs a (List.mem_dedup.mp (h.categories.mem_iff.mp ha))
  refine ⟨⟨row, b'.serialiser row, hrow, ?_, hphoto, htitre, hdate, hlangue, ?_, ?_, ?_, ?_⟩,
    fun j hj => ?_⟩
  · rw [LivreController.lire, hrow, Option.map_some]
  · show ((lies row.id b'.livreAuteur).filterMap b'.auteur.find).map AuteurRow.id |>.Perm _
    rw [hid, hauteurs]
    exact h.auteurs
  · show (((lies row.id b'.livreCategorie).filterMap b'.categorie.find).map
      fun c => (⟨c.id, c.nom⟩ : CategorieRead)).map CategorieRead.id |>.Perm _
    rw [List.map_map, hid]
    exact (List.Perm.of_eq hcategories).trans h.categories
  · rw [hreserve, ← h.reservations, ← hid]
    rfl
  · rw [hemprunte, ← h.emprunt, ← hid]
    rfl
  · unfold LivreController.lire
    rw [h.livre j hj]
    cases hfind : b.tables.livre.find j with
    | none => rfl
    | some r =>
      have hr : r.id = j := Table.key_of_find hfind
      obtain ⟨hA, hC⟩ := h.autres j hj
      rw [Option.map_some, Option.map_some]
      simp only [Base.serialiser, Base.auteursDe, Base.categoriesDe, hr, hA, hC, h.auteur,
        h.categorie, h.emprunt, h.reservations]

/-- A form that the pages accept. -/
structure Accepte (services : Services) (acteur : List String) (form : Livre) (as cs : List ℕ)
    (b : Base) : Prop where
  admin : isGranted acteur "ROLE_ADMIN" = true
  titre : form.titre ≠ none
  langue : form.langue ≠ none
  fits : form.fits = true
  photo : violations services form = []
  auteurs : ∀ a ∈ as, b.hasAuteur a = true
  categories : ∀ c ∈ cs, b.hasCategorie c = true

/-! ### Pages that accept or refuse -/

/-- A page either accepts its form, where `ok` holds, and leaves `b'`, or leaves `b` as it is. -/
def IssuePage (ok : Prop) (p : HandlerBase) (b b' : Base) : Prop :=
  ok ∧ p.alone b = (b', .enregistre) ∨ ¬ ok ∧ p.after b = b ∧ p.answer b ≠ .enregistre

section Issues

variable {ok ok' : Prop} {p q : HandlerBase}

theorem IssuePage.congr (h : ok' ↔ ok) (hp : IssuePage ok p b b') : IssuePage ok' p b b' := by
  unfold IssuePage
  rw [h]
  exact hp

theorem IssuePage.of_alone (h : p.alone b = q.alone b) (hq : IssuePage ok q b b') :
    IssuePage ok p b b' := by
  unfold IssuePage after answer at hq ⊢
  rw [h]
  exact hq

theorem IssuePage.refus {r : Reponse} (hok : ¬ ok) (hr : r ≠ .enregistre) :
    IssuePage ok (return r) b b' :=
  Or.inr ⟨hok, rfl, hr⟩

/-- A test of the page, and then its rest. -/
theorem IssuePage.ite {c : Prop} [Decidable c] {r : Reponse} (hr : r ≠ .enregistre)
    (hp : ¬ c → IssuePage ok p b b') : IssuePage (¬ c ∧ ok) (if c then return r else p) b b' := by
  split_ifs with hc
  · exact .refus (fun h => h.1 hc) hr
  · exact (hp hc).congr (and_iff_right hc)

theorem IssuePage.pourAdmin (hp : IssuePage ok p b b') :
    IssuePage (isGranted acteur "ROLE_ADMIN" = true ∧ ok) (pourAdmin acteur p) b b' := by
  refine (IssuePage.ite (fun h => by cases h) fun _ => hp).congr ?_
  rw [Bool.not_eq_true', Bool.not_eq_false]

/-- A page about a row. -/
theorem IssuePage.pageDe {β : Type} (trouver : Base → Option β) {page : β → HandlerBase}
    (hp : ∀ row, trouver b = some row → IssuePage ok (page row) b b') :
    IssuePage ((trouver b).isSome = true ∧ ok) (pageDe trouver page) b b' := by
  cases hfind : trouver b with
  | none =>
    refine .of_alone (q := return .exception 404 "Not Found") ?_ (.refus ?_ ?_)
    · unfold Biblio.pageDe
      rw [read_bind, alone_query, hfind]
    · rintro ⟨⟨⟩, -⟩
    · rintro ⟨⟩
  | some row =>
    refine .of_alone (q := page row) ?_ ((hp row hfind).congr (and_iff_right rfl))
    unfold Biblio.pageDe
    rw [read_bind, alone_query, hfind]

theorem IssuePage.read {β : Type} {f : Base → β} {suite : β → HandlerBase}
    (hp : IssuePage ok (suite (f b)) b b') : IssuePage ok (Prog.read f >>= suite) b b' :=
  hp.of_alone rfl

/-- The constraints of the form, and then the rest of a page. -/
theorem IssuePage.choixLiens
    (hp : (∀ a ∈ as, b.hasAuteur a = true) → (∀ c ∈ cs, b.hasCategorie c = true) →
      IssuePage ok p b b') :
    IssuePage ((violations services form = [] ∧ (∀ a ∈ as, b.hasAuteur a = true) ∧
        ∀ c ∈ cs, b.hasCategorie c = true) ∧ ok)
      (LivreCrudController.choixLiens as cs >>= fun invalides =>
        if violations services form ++ invalides = [] then p
        else return .formulaireInvalide (violations services form ++ invalides)) b b' := by
  have hnil : violations services form ++
      ((if as.all b.hasAuteur then [] else [choixInvalide "auteurs"]) ++
        if cs.all b.hasCategorie then [] else [choixInvalide "categories"]) = [] ↔
      violations services form = [] ∧ (∀ a ∈ as, b.hasAuteur a = true) ∧
        ∀ c ∈ cs, b.hasCategorie c = true := by
    rw [List.append_eq_nil_iff, List.append_eq_nil_iff, ← List.all_eq_true, ← List.all_eq_true]
    refine and_congr_right fun _ => and_congr ?_ ?_
    · split_ifs with h <;> simp [h]
    · split_ifs with h <;> simp [h]
  refine IssuePage.read ?_
  rw [← hnil]
  by_cases hchoix : violations services form ++
      ((if as.all b.hasAuteur then [] else [choixInvalide "auteurs"]) ++
        if cs.all b.hasCategorie then [] else [choixInvalide "categories"]) = []
  · obtain ⟨-, has, hcs⟩ := hnil.mp hchoix
    rw [if_pos hchoix]
    exact (hp has hcs).congr (and_iff_right hchoix)
  · rw [if_neg hchoix]
    exact .refus (fun h => hchoix h.1) fun h => by cases h

/-- The last unit of work of a page. -/
theorem IssuePage.flush {ws : List Instruction} {fits : Bool}
    (h : commit ws b = if fits = true then some b' else none) :
    IssuePage (fits = true) (flushEtRepondre ws) b b' := by
  cases fits with
  | true => exact Or.inl ⟨rfl, alone_flush_some h⟩
  | false =>
    refine .of_alone (q := return apresFlush false) (alone_flush_none h) (.refus ?_ ?_)
    · rintro ⟨⟩
    · rintro ⟨⟩

end Issues

/-! ### The page EDIT -/

/-- The row that an accepted form writes. -/
def LivreRow.remplir (form : Livre) (r : LivreRow) : LivreRow :=
  { r with
    titre := form.titre.getD r.titre
    dateSortie := form.dateSortie
    langue := form.langue.getD r.langue
    photoCouverture := form.photoCouverture }

/-- An `UPDATE` with the row as it is sets all columns. -/
theorem exec_updateLivre {s : Tables} {row : LivreRow} (hrow : s.livre.find id = some row)
    (htitre : form.titre ≠ none) (hlangue : form.langue ≠ none) :
    exec (.updateLivre id row form) s =
      if form.fits then
        some { s with livre := s.livre.update id (LivreRow.remplir (form.garder (some row))) }
      else none := by
  obtain ⟨titre, ht⟩ := Option.ne_none_iff_exists'.mp htitre
  obtain ⟨langue, hl⟩ := Option.ne_none_iff_exists'.mp hlangue
  simp only [exec, ht, hl]
  refine if_congr Iff.rfl (congrArg some ?_) rfl
  refine congrArg (fun t => { s with livre := t }) (s.livre.update_congr fun r hr => ?_)
  obtain rfl := Option.some.inj (hrow.symm.trans hr)
  simp only [changed_self, changedTo_self, LivreRow.remplir, Livre.garder, ht, hl, Option.map_some,
    Option.getD_some]

/-- The base that EDIT leaves, where the columns keep `form`. -/
def apresEdit (form : Livre) (as cs : List ℕ) (id : ℕ) (b : Base) : Base :=
  { b with
    tables := { b.tables with livre := b.tables.livre.update id (LivreRow.remplir form) }
    livreAuteur := synchronise id as b.livreAuteur
    livreCategorie := synchronise id cs b.livreCategorie }

/-- The unit of work of EDIT. -/
theorem commit_editLie {row : LivreRow} (hrow : b.tables.livre.find id = some row)
    (htitre : form.titre ≠ none) (hlangue : form.langue ≠ none)
    (has : ∀ a ∈ as, b.hasAuteur a = true) (hcs : ∀ c ∈ cs, b.hasCategorie c = true) :
    commit ([.prets (.updateLivre id row form)] ++
        synchroniser (.deleteLivreAuteur id) (.insertLivreAuteur id) (lies id b.livreAuteur) as ++
        synchroniser (.deleteLivreCategorie id) (.insertLivreCategorie id)
          (lies id b.livreCategorie) cs) b
      = if form.fits then
          some (apresEdit (form.garder (b.tables.livre.find id)) as cs id b) else none := by
  rw [hrow]
  generalize hgarde : form.garder (some row) = garde
  have hexec : Database.exec (Instruction.prets (.updateLivre id row form)) b
      = (if form.fits then
          some { b.tables with livre := b.tables.livre.update id (LivreRow.remplir garde) }
        else none).map fun s => { b with tables := s } := by
    rw [← hgarde, ← exec_updateLivre hrow htitre hlangue]
    rfl
  rw [List.append_assoc, List.singleton_append, commit, hexec]
  split_ifs with hfits
  · -- the book is still there for the foreign keys of its links
    have hlivre : (b.tables.livre.update id (LivreRow.remplir garde)).find id |>.isSome := by
      rw [Table.find_update_self, hrow]
      rfl
    rw [Option.map_some, Option.bind_some, commit_append]
    have hauteurs := Collection.auteurs.commit_synchroniser (b := { b with
        tables := { b.tables with livre := b.tables.livre.update id (LivreRow.remplir garde) } })
      id hlivre as has
    have hcategories := Collection.categories.commit_synchroniser (b := { b with
        tables := { b.tables with livre := b.tables.livre.update id (LivreRow.remplir garde) }
        livreAuteur := synchronise id as b.livreAuteur })
      id hlivre cs hcs
    exact (congrArg (Option.bind · _) hauteurs).trans hcategories
  · rfl

/-- EDIT leaves the form in the book of its page, and the other books as they were. -/
theorem ecrite_apresEdit (hcles : b.Cles) (hlivre : b.tables.hasLivre id = true)
    (htitre : form.titre ≠ none) (hlangue : form.langue ≠ none) :
    Ecrite form as cs id b (apresEdit form as cs id b) := by
  obtain ⟨row, hrow⟩ := Option.isSome_iff_exists.mp hlivre
  obtain ⟨titre, ht⟩ := Option.ne_none_iff_exists'.mp htitre
  obtain ⟨langue, hl⟩ := Option.ne_none_iff_exists'.mp hlangue
  refine ⟨?_, lies_synchronise_perm (hcles .auteurs), lies_synchronise_perm (hcles .categories),
    fun j hj => Table.find_update_of_ne _ _ hj,
    fun j hj => ⟨lies_synchronise_of_ne hj, lies_synchronise_of_ne hj⟩, rfl, rfl, rfl, rfl⟩
  have hfind : (apresEdit form as cs id b).tables.livre.find id
      = some (Keyed.withKey id (row.remplir form)) := by
    show (b.tables.livre.update id (LivreRow.remplir form)).find id = _
    rw [Table.find_update_self, hrow, Option.map_some]
  refine ⟨_, hfind, rfl, ?_, rfl, ?_⟩
  · show some (form.titre.getD row.titre) = form.titre
    rw [ht, Option.getD_some]
  · show some (form.langue.getD row.langue) = form.langue
    rw [hl, Option.getD_some]

/-- **The page EDIT.** -/
theorem issue_editLie :
    IssuePage (Accepte services acteur form as cs b ∧ b.tables.hasLivre id = true)
      (editLie services acteur id form as cs) b 
        (apresEdit (form.garder (b.tables.livre.find id)) as cs id b) := by
  have hissue : IssuePage (isGranted acteur "ROLE_ADMIN" = true ∧
      (b.tables.livre.find id).isSome = true ∧ ¬ (form.titre = none ∨ form.langue = none) ∧
      (violations services form = [] ∧ (∀ a ∈ as, b.hasAuteur a = true) ∧
        ∀ c ∈ cs, b.hasCategorie c = true) ∧ form.fits = true)
      (editLie services acteur id form as cs) b 
        (apresEdit (form.garder (b.tables.livre.find id)) as cs id b) := by
    refine .pourAdmin (.pageDe (fun b => b.tables.livre.find id) fun row hrow => ?_)
    refine .ite ?_ fun hnul => ?_
    · rintro ⟨⟩
    · refine .choixLiens fun has hcs => ?_
      obtain ⟨htitre, hlangue⟩ := not_or.mp hnul
      exact .read (.read (.flush (commit_editLie hrow htitre hlangue has hcs)))
  refine hissue.congr ⟨fun h => ?_, fun h => ?_⟩
  · exact ⟨h.1.admin, h.2, fun hnul => hnul.elim h.1.titre h.1.langue,
      ⟨h.1.photo, h.1.auteurs, h.1.categories⟩, h.1.fits⟩
  · obtain ⟨hadmin, hlivre, hnul, ⟨hphoto, has, hcs⟩, hfits⟩ := h
    obtain ⟨htitre, hlangue⟩ := not_or.mp hnul
    exact ⟨⟨hadmin, htitre, hlangue, hfits, hphoto, has, hcs⟩, hlivre⟩

/-! ### The page NEW -/

/-- The base that NEW leaves, where the columns keep `form`. -/
def apresNew (form : Livre) (as cs : List ℕ) (b : Base) : Base :=
  { b with
    tables := { b.tables with
      livre := b.tables.livre.insert (LivreRow.remplir form ⟨0, "", none, "", none⟩) }
    livreAuteur := b.livreAuteur ++ as.dedup.map fun a => (b.tables.livre.next, a)
    livreCategorie := b.livreCategorie ++ cs.dedup.map fun c => (b.tables.livre.next, c) }

/-- A link refers to a book that is there, so a new book has none. -/
theorem next_not_mem {liens : Liens} (h : ∀ e ∈ liens, b.tables.hasLivre e.1 = true) (a : ℕ) :
    (b.tables.livre.next, a) ∉ liens := by
  intro hmem
  obtain ⟨r, hr, hkey⟩ := (b.tables.livre.isSome_find_iff _).mp (h _ hmem)
  exact Nat.ne_of_lt (b.tables.livre.lt_next r hr) hkey

theorem exec_insertLivre (s : Tables) :
    exec (.insertLivre form) s =
      if (form.titre.isSome && form.langue.isSome && form.fits) = true then
        some { s with
          livre := s.livre.insert
            (LivreRow.remplir (form.garder none) ⟨0, "", none, "", none⟩) }
      else none := by
  cases ht : form.titre with
  | none => simp only [exec, ht, Option.isSome_none, Bool.false_and, Bool.false_eq_true, if_false]
  | some titre =>
    cases hl : form.langue with
    | none =>
      simp only [exec, ht, hl, Option.isSome_none, Bool.and_false, Bool.false_and,
        Bool.false_eq_true, if_false]
    | some langue =>
      simp only [exec, ht, hl, Option.isSome_some, Bool.true_and, LivreRow.remplir, Livre.garder,
        Option.map_none, Option.map_some, garde_none, Option.getD_some]

theorem Table.find_next {ρ : Type} [Keyed ρ] (t : Table ρ) : t.find t.next = none :=
  (t.find_eq_none_iff _).mpr fun r hr => Nat.ne_of_lt (t.lt_next r hr)

/-- The unit of work of NEW. -/
theorem commit_newLie (hb : b.Valides) (has : ∀ a ∈ as, b.hasAuteur a = true)
    (hcs : ∀ c ∈ cs, b.hasCategorie c = true) :
    commit [.insertLivre form as.dedup cs.dedup] b
      = if (form.titre.isSome && form.langue.isSome && form.fits) = true then
          some (apresNew (form.garder none) as cs b) else none := by
  show (execBase (.insertLivre form as.dedup cs.dedup) b).bind some = _
  rw [Option.bind_fun_some, execBase, exec_insertLivre]
  generalize form.garder none = garde
  split_ifs with hok
  · have hlivre := b.tables.livre.isSome_find_next (LivreRow.remplir garde ⟨0, "", none, "", none⟩)
    have hA := foldlM_insertLivreAuteur (b := { b with
        tables := { b.tables with
          livre := b.tables.livre.insert (LivreRow.remplir garde ⟨0, "", none, "", none⟩) } })
      hlivre (fun a ha => has a (List.mem_dedup.mp ha)) as.nodup_dedup
      fun a _ => next_not_mem (fun e he => (hb.livreAuteur e he).1) a
    have hC := foldlM_insertLivreCategorie (b := { b with
        tables := { b.tables with
          livre := b.tables.livre.insert (LivreRow.remplir garde ⟨0, "", none, "", none⟩) }
        livreAuteur := b.livreAuteur ++ as.dedup.map fun a => (b.tables.livre.next, a) })
      hlivre (fun c hc => hcs c (List.mem_dedup.mp hc)) cs.nodup_dedup
      fun c _ => next_not_mem (fun e he => (hb.livreCategorie e he).1) c
    exact (congrArg (Option.bind · _) hA).trans hC
  · rfl

/-- NEW leaves the form in the new book, and the other books as they were. -/
theorem ecrite_apresNew (hb : b.Valides) (htitre : form.titre ≠ none)
    (hlangue : form.langue ≠ none) :
    Ecrite form as cs b.tables.livre.next b (apresNew form as cs b) := by
  obtain ⟨titre, ht⟩ := Option.ne_none_iff_exists'.mp htitre
  obtain ⟨langue, hl⟩ := Option.ne_none_iff_exists'.mp hlangue
  have hlies : ∀ {liens : Liens}, (∀ e ∈ liens, b.tables.hasLivre e.1 = true) →
      ∀ autres : List ℕ, lies b.tables.livre.next
        (liens ++ autres.map fun a => (b.tables.livre.next, a)) = autres := by
    intro liens hliens autres
    have hnil : lies b.tables.livre.next liens = [] :=
      List.eq_nil_iff_forall_not_mem.mpr fun a ha => next_not_mem hliens a (mem_lies.mp ha)
    rw [lies_append, hnil, lies_map_self, List.nil_append]
  refine ⟨?_, ?_, ?_, fun j hj => Table.find_insert_of_ne _ _ hj, fun j hj => ⟨?_, ?_⟩, rfl, rfl,
    rfl, rfl⟩
  · refine ⟨Keyed.withKey b.tables.livre.next (LivreRow.remplir form ⟨0, "", none, "", none⟩), ?_,
      rfl, ?_, rfl, ?_⟩
    · exact (Table.find_eq_some_iff _ _ _).mpr ⟨Table.mem_insert.mpr (Or.inr rfl), rfl⟩
    · show some (form.titre.getD "") = form.titre
      rw [ht, Option.getD_some]
    · show some (form.langue.getD "") = form.langue
      rw [hl, Option.getD_some]
  · exact List.Perm.of_eq (hlies (fun e he => (hb.livreAuteur e he).1) as.dedup)
  · exact List.Perm.of_eq (hlies (fun e he => (hb.livreCategorie e he).1) cs.dedup)
  · exact (lies_append _ _).trans (by rw [lies_map_of_ne hj, List.append_nil])
  · exact (lies_append _ _).trans (by rw [lies_map_of_ne hj, List.append_nil])

/-- **The page NEW.** -/
theorem issue_newLie (hb : b.Valides) :
    IssuePage (Accepte services acteur form as cs b) (newLie services acteur form as cs) b
      (apresNew (form.garder none) as cs b) := by
  have hissue : IssuePage (isGranted acteur "ROLE_ADMIN" = true ∧
      (violations services form = [] ∧ (∀ a ∈ as, b.hasAuteur a = true) ∧
        ∀ c ∈ cs, b.hasCategorie c = true) ∧
      (form.titre.isSome && form.langue.isSome && form.fits) = true)
      (newLie services acteur form as cs) b (apresNew (form.garder none) as cs b) :=
    .pourAdmin (.choixLiens fun has hcs => .flush (commit_newLie hb has hcs))
  refine hissue.congr ⟨fun h => ?_, fun h => ?_⟩
  · refine ⟨h.admin, ⟨h.photo, h.auteurs, h.categories⟩, ?_⟩
    rw [Option.isSome_iff_ne_none.mpr h.titre, Option.isSome_iff_ne_none.mpr h.langue, h.fits]
    rfl
  · obtain ⟨hadmin, ⟨hphoto, has, hcs⟩, hok⟩ := h
    rw [Bool.and_eq_true, Bool.and_eq_true] at hok
    exact ⟨hadmin, Option.isSome_iff_ne_none.mp hok.1.1, Option.isSome_iff_ne_none.mp hok.1.2,
      hok.2, hphoto, has, hcs⟩

/-- A page accepts its form exactly where `ok` holds; the API then shows the book `id` as the
columns keep the form, which is the form itself if it is trimmed, and otherwise nothing changes. -/
structure Fidele (ok : Prop) (p : HandlerBase) (form : Livre) (as cs : List ℕ) (id : ℕ) (b : Base) :
    Prop where
  accepte : p.answer b = .enregistre ↔ ok
  montre : p.answer b = .enregistre →
    Montre (form.garder (b.tables.livre.find id)) as cs id b (p.after b)
  entier : form.Taille → p.answer b = .enregistre → Montre form as cs id b (p.after b)
  refuse : p.answer b ≠ .enregistre → p.after b = b

theorem IssuePage.fidele {ok : Prop} {p : HandlerBase} (h : IssuePage ok p b b')
    (hfits : ok → form.fits = true)
    (hm : ok → Montre (form.garder (b.tables.livre.find id)) as cs id b b') :
    Fidele ok p form as cs id b := by
  rcases h with ⟨hok, halone⟩ | ⟨hnon, hafter, hanswer⟩
  · have hanswer : p.answer b = .enregistre := congrArg Prod.snd halone
    have hafter : p.after b = b' := congrArg Prod.fst halone
    refine ⟨iff_of_true hanswer hok, fun _ => ?_, fun htaille _ => ?_,
      fun hne => absurd hanswer hne⟩
    · rw [hafter]
      exact hm hok
    · have hmontre := hm hok
      rw [Livre.garder_eq_self (hfits hok) htaille] at hmontre
      rw [hafter]
      exact hmontre
  · exact ⟨iff_of_false hanswer hnon, fun hyes => absurd hyes hanswer,
      fun _ hyes => absurd hyes hanswer, fun _ => hafter⟩

theorem fidele_editLie (hb : b.Valides) (hcles : b.Cles) :
    Fidele (Accepte services acteur form as cs b ∧ b.tables.hasLivre id = true)
      (editLie services acteur id form as cs) form as cs id b := by
  refine issue_editLie.fidele (fun h => h.1.fits) fun h => ?_
  have hecrite : Ecrite (form.garder (b.tables.livre.find id)) as cs id b _ :=
    ecrite_apresEdit hcles h.2 (by simpa using h.1.titre) (by simpa using h.1.langue)
  exact hecrite.montre hb.tables h.1.auteurs h.1.categories

theorem fidele_newLie (hb : b.Valides) :
    Fidele (Accepte services acteur form as cs b) (newLie services acteur form as cs) form as cs
      b.tables.livre.next b := by
  have hnew : b.tables.livre.find b.tables.livre.next = none := b.tables.livre.find_next
  refine (issue_newLie hb).fidele (fun h => h.fits) fun h => ?_
  have hecrite : Ecrite (form.garder none) as cs b.tables.livre.next b _ :=
    ecrite_apresNew hb (by simpa using h.titre) (by simpa using h.langue)
  rw [hnew]
  exact hecrite.montre hb.tables h.auteurs h.categories

end Pages

/-- **Round trip of the pages of a book.**  In every state that interleaved requests lead to from a
database with valid references and keys: the pages NEW and EDIT accept exactly the forms of
administrators with a title and a language, whose values fit their columns, whose cover is valid and
whose authors and categories are there; the API then shows the book as the columns keep the form,
and exactly as the form says if its texts are trimmed, with each chosen author and category once,
and every other book as before; otherwise nothing changes. -/
theorem book_pages_round_trip (services : Services) (b₀ : Base) (h₀ : b₀.Valides) (hcles : b₀.Cles)
    (es : List (Event RequeteBase)) (acteur : List String) (form : Livre) (as cs : List ℕ) :
    let b := (run (Config.step (RequeteBase.handler services)) (Config.idle b₀) es).store
    (∀ id, Fidele (Accepte services acteur form as cs b ∧ b.tables.hasLivre id = true)
      (editLie services acteur id form as cs) form as cs id b) ∧
    Fidele (Accepte services acteur form as cs b) (newLie services acteur form as cs) form as cs
      b.tables.livre.next b := by
  intro b
  have hb : b.Valides := Config.store_preserves valides_execBase _ es h₀
  have hcles : b.Cles := Config.store_preserves cles_execBase _ es hcles
  exact ⟨fun id => fidele_editLie hb hcles, fidele_newLie hb⟩

/-- A new author is added, and then chosen for a book with the one it has: the API shows both, and
the category is gone. -/
theorem book_pages_round_trip_two_authors :
    let form : Livre := ⟨none, some "Perrot", none, some "Français", none⟩
    let es : List (Event RequeteBase) :=
      [.arrive (.auteurNew ["ROLE_ADMIN"] ⟨some "Roche", some "Léon", none⟩), .advance 0]
    let b := (run (Config.step (RequeteBase.handler Exemple.services))
      (Config.idle (Exemple.base .empty .empty)) es).store
    ∃ l, LivreController.lire
        ((editLie Exemple.services ["ROLE_ADMIN"] 1 form [2, 1, 2] []).after b) 1 = some l ∧
      l.titre = "Perrot" ∧ (l.auteurs.map AuteurRow.id).Perm [1, 2] ∧ l.categories = [] := by
  intro form es b
  have hvalides : (Exemple.base .empty .empty).Valides := by
    refine ⟨⟨fun e he => ?_, fun r hr => ?_⟩, by decide, by decide⟩
    · cases he
    · cases hr
  have hcles : (Exemple.base .empty .empty).Cles := by
    intro c
    cases c with
    | auteurs => decide
    | categories => decide
  have hfidele := (book_pages_round_trip Exemple.services _ hvalides hcles es ["ROLE_ADMIN"] form
    [2, 1, 2] []).1 1
  have hok : Accepte Exemple.services ["ROLE_ADMIN"] form [2, 1, 2] [] b :=
    ⟨by decide, by decide, by decide, by decide, by decide, by decide +kernel, by decide +kernel⟩
  have htaille : form.Taille := by
    refine ⟨fun t ht => ?_, fun t ht => ?_, fun t ht => by cases ht⟩
    · obtain rfl := Option.some.inj ht
      decide
    · obtain rfl := Option.some.inj ht
      decide
  obtain ⟨row, l, -, hlire, -, htitre, -, -, hauteurs, hcategories, -⟩ :=
    (hfidele.entier htaille (hfidele.accepte.mpr ⟨hok, by decide +kernel⟩)).livre
  refine ⟨l, hlire, Option.some.inj htitre, hauteurs.trans (by decide), ?_⟩
  exact List.map_eq_nil_iff.mp hcategories.eq_nil

end Biblio
