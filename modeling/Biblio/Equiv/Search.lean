import Biblio.Catalogue

/-!
# Pages of a search

First the paginator over any list of distinct ids, whatever is loaded for them (`pagesExactes`),
and what follows for the search of a table (`Recherche`).  Then the two searches are shown to be
such: the distinct ids of the rows that the joined query keeps are those of the matching books
(`mem_ids_iff`), and what is loaded for a window of them are these books.

With one order of the ids for all requests, a page is the window that its number says as long as
its offset is an integer of PHP (`search_pages`).  With an order of its own for every request, which
a query without `ORDER BY` allows, the pages lose and repeat nothing exactly when there is only one
(`browsing_complete_iff`).
-/

namespace Biblio

/-! ### The paginator -/

section Paginator

variable {β : Type} (cle : β → ℕ)

/-- The answer to a request for page `p` has the rows of the `p`-th window of `ids`, each of them
once, and the number of pages. -/
def PageExacte (ids : List ℕ) (p : ℤ) (r : Option (Resultat β)) : Prop :=
  ∃ res, r = some res ∧ (res.data.map cle).Perm (page limite p.toNat ids) ∧
    res.totalPages = pageCount limite ids.length ∧ res.currentPage = p

/-- A row is on page `p`, which is one of the pages there are. -/
def SurPage (chercher : ℤ → Option (Resultat β)) (id : ℕ) (p : ℤ) : Prop :=
  1 ≤ p ∧ ∃ res, chercher p = some res ∧ p ≤ res.totalPages ∧ id ∈ res.data.map cle

/-- The pages of a search are the windows of a list of ids. -/
structure PagesExactes (ids : List ℕ) (chercher : ℤ → Option (Resultat β)) : Prop where
  exacte : ∀ p : ℤ, 1 ≤ p →
    (PageExacte cle ids p (chercher p) ↔ (p - 1) * limite ≤ phpIntMax)
  une : ∀ id ∈ ids, ∃! p, SurPage cle chercher id p
  pleine : ∀ p : ℤ, 1 ≤ p → p < pageCount limite ids.length →
    ∃ res, chercher p = some res ∧ res.data.length = limite
  vide : ∀ p : ℤ, pageCount limite ids.length < p → (p - 1) * limite ≤ phpIntMax →
    ∃ res, chercher p = some res ∧ res.data = []

/-- What is loaded for distinct ids of the query are the rows of these ids, each once. -/
def ChargeExacte (ids : List ℕ) (charger : List ℕ → List β) : Prop :=
  ∀ w : List ℕ, w.Nodup → w ⊆ ids → ((charger w).map cle).Perm w

theorem premierResultat_eq_some {p : ℤ} (hp : 1 ≤ p) (h : (p - 1) * limite ≤ phpIntMax) :
    premierResultat p limite = some ((p.toNat - 1) * limite) := by
  unfold limite at *
  rw [premierResultat, if_pos (by omega)]
  congr 1
  omega

theorem premierResultat_eq_none {p : ℤ} (h : phpIntMax < (p - 1) * limite) :
    premierResultat p limite = none :=
  if_neg (by omega)

theorem totalPages_eq (n : ℕ) :
    (if (n + limite - 1) / limite > 0 then (n + limite - 1) / limite else 1)
      = pageCount limite n := by
  rw [pageCount, Nat.ceilDiv_eq_add_pred_div]
  split_ifs <;> omega

/-- The answer to a request whose offset is an integer of PHP. -/
theorem paginer_eq (ordre : Ordre) (ids : List ℕ) (charger : List ℕ → List β) {p : ℤ} (hp : 1 ≤ p)
    (h : (p - 1) * limite ≤ phpIntMax) :
    paginer ordre ids charger p limite
      = some ⟨charger (page limite p.toNat (ordre.lister ids)),
          pageCount limite (ordre.lister ids).length, p⟩ := by
  rw [paginer, premierResultat_eq_some hp h, (ordre.perm ids).length_eq, ← totalPages_eq]
  rfl

/-- A request whose offset is not one is not answered. -/
theorem fits_of_paginer_eq_some {ordre : Ordre} {ids : List ℕ} {charger : List ℕ → List β} {p : ℤ}
    {res : Resultat β} (h : paginer ordre ids charger p limite = some res) :
    (p - 1) * limite ≤ phpIntMax := by
  by_contra hbig
  rw [paginer, premierResultat_eq_none (not_le.mp hbig)] at h
  cases h

/-- With as many rows as an `INT` key allows, every page there is has its offset. -/
theorem offset_le {n : ℕ} (hn : n ≤ intMax + 1) {p : ℤ} (hp : p ≤ pageCount limite n) :
    (p - 1) * limite ≤ phpIntMax := by
  have hlimit : 0 < limite := by decide
  by_cases h2 : p < 2
  · unfold limite phpIntMax
    omega
  · have hlt := (lt_pageCount_iff hlimit (p := p.toNat - 1) (by omega)).mp
      (by omega : p.toNat - 1 < pageCount limite n)
    unfold limite phpIntMax intMax at *
    omega

variable {cle} {ids : List ℕ} {charger : List ℕ → List β}

/-- What is loaded for a page. -/
theorem ChargeExacte.perm_page (h : ChargeExacte cle ids charger) (hids : ids.Nodup)
    (ordre : Ordre) (p : ℕ) :
    ((charger (page limite p (ordre.lister ids))).map cle).Perm
      (page limite p (ordre.lister ids)) := by
  have hperm := ordre.perm ids
  have hsub : (page limite p (ordre.lister ids)).Sublist (ordre.lister ids) := window_sublist ..
  exact h _ ((hperm.nodup_iff.mpr hids).sublist hsub) fun x hx => hperm.subset (hsub.subset hx)

/-- A row is on the page whose window has its id. -/
theorem surPage_iff (h : ChargeExacte cle ids charger) (hids : ids.Nodup)
    (hlen : ids.length ≤ intMax + 1) (ordres : ℤ → Ordre) {id : ℕ} {p : ℤ} :
    SurPage cle (fun p => paginer (ordres p) ids charger p limite) id p ↔
      (1 ≤ p ∧ p ≤ pageCount limite ids.length) ∧
        id ∈ page limite p.toNat ((ordres p).lister ids) := by
  have hlength := ((ordres p).perm ids).length_eq
  have hmem := (h.perm_page hids (ordres p) p.toNat).mem_iff (a := id)
  constructor
  · rintro ⟨hp, res, hres, hle, hid⟩
    have hres : paginer (ordres p) ids charger p limite = some res := hres
    rw [paginer_eq _ _ _ hp (fits_of_paginer_eq_some hres)] at hres
    obtain rfl := Option.some.inj hres
    rw [hlength] at hle
    exact ⟨⟨hp, hle⟩, hmem.mp hid⟩
  · rintro ⟨⟨hp, hle⟩, hid⟩
    refine ⟨hp, _, paginer_eq _ _ _ hp (offset_le hlen hle), ?_, hmem.mpr hid⟩
    rw [hlength]
    exact hle

/-- **The paginator.** -/
theorem pagesExactes (h : ChargeExacte cle ids charger) (hids : ids.Nodup)
    (hlen : ids.length ≤ intMax + 1) (ordre : Ordre) :
    PagesExactes cle (ordre.lister ids) fun p => paginer ordre ids charger p limite := by
  have hlimit : 0 < limite := by decide
  have hcount : pageCount limite (ordre.lister ids).length = pageCount limite ids.length := by
    rw [(ordre.perm ids).length_eq]
  have hnodup : (ordre.lister ids).Nodup := (ordre.perm ids).nodup_iff.mpr hids
  refine ⟨fun p hp => ⟨?_, fun hfits => ?_⟩, fun id hid => ?_, fun p hp hlt => ?_,
    fun p hlt hfits => ?_⟩
  · rintro ⟨res, hres, -⟩
    exact fits_of_paginer_eq_some hres
  · exact ⟨_, paginer_eq _ _ _ hp hfits, h.perm_page hids ordre p.toNat, rfl, rfl⟩
  · -- the pages of the list are numbered by naturals, those of the API by integers
    obtain ⟨q, ⟨⟨hq, hle⟩, hmem⟩, huniq⟩ := existsUnique_mem_page hlimit hnodup hid
    refine ⟨q, (surPage_iff h hids hlen fun _ => ordre).mpr ⟨⟨by omega, by omega⟩, hmem⟩, ?_⟩
    intro p hp
    obtain ⟨⟨hp, hple⟩, hpmem⟩ := (surPage_iff h hids hlen fun _ => ordre).mp hp
    have := huniq p.toNat ⟨⟨by omega, by omega⟩, hpmem⟩
    omega
  · have hfits := offset_le hlen (p := p) (by omega)
    refine ⟨_, paginer_eq _ _ _ hp hfits, ?_⟩
    have hperm := (h.perm_page hids ordre p.toNat).length_eq
    rw [List.length_map, length_page_of_lt hlimit (by omega) (by omega)] at hperm
    exact hperm
  · have hp : 1 ≤ p := by
      have : 1 ≤ pageCount limite (ordre.lister ids).length := Nat.le_max_left ..
      omega
    refine ⟨_, paginer_eq _ _ _ hp hfits, ?_⟩
    have hperm := (h.perm_page hids ordre p.toNat).length_eq
    rw [List.length_map, page_eq_nil_of_lt hlimit (by omega), List.length_nil,
      List.length_eq_zero_iff] at hperm
    rw [page_eq_nil_of_lt hlimit (by omega)]
    exact hperm

/-- The orders of two requests: the ids as they come, and the other way round. -/
def Ordre.direct : Ordre := ⟨id, fun _ => .refl _⟩

def Ordre.inverse : Ordre := ⟨List.reverse, List.reverse_perm⟩

/-- **Browsing.**  Whatever the order of each request, every row is on exactly one page: this holds
exactly when all rows fit on one page.  Otherwise the first row of one order may be the last one of
another, and be on both the first and the last page. -/
theorem existsUnique_surPage_iff (h : ChargeExacte cle ids charger) (hids : ids.Nodup)
    (hlen : ids.length ≤ intMax + 1) :
    (∀ ordres : ℤ → Ordre, ∀ id ∈ ids,
        ∃! p, SurPage cle (fun p => paginer (ordres p) ids charger p limite) id p) ↔
      ids.length ≤ limite := by
  have hlimit : 0 < limite := by decide
  constructor
  · intro hall
    by_contra hlt
    obtain ⟨x, hx⟩ : ∃ x, ids[0]? = some x :=
      ⟨_, List.getElem?_eq_getElem (by omega : 0 < ids.length)⟩
    have hmem : x ∈ ids := List.mem_of_getElem? hx
    have hpos : 1 ≤ (ids.length - 1) / limite := (Nat.one_le_div_iff hlimit).mpr (by omega)
    have hle : (ids.length - 1) / limite + 1 ≤ pageCount limite ids.length := by
      refine (lt_pageCount_iff hlimit hpos).mpr ?_
      have := Nat.div_mul_le_self (ids.length - 1) limite
      omega
    obtain ⟨q, -, huniq⟩ :=
      hall (fun p => if p = 1 then Ordre.direct else Ordre.inverse) x hmem
    have hfirst := huniq 1 ((surPage_iff h hids hlen _).mpr ⟨⟨by omega, by omega⟩,
      (mem_page_iff hlimit).mpr ⟨0, Nat.zero_div _, hx⟩⟩)
    have hlast := huniq ((ids.length - 1) / limite + 1 : ℕ)
      ((surPage_iff h hids hlen _).mpr ⟨⟨by omega, by omega⟩, ?_⟩)
    · omega
    · rw [if_neg (by omega), Int.toNat_natCast, mem_page_iff hlimit]
      refine ⟨ids.length - 1, rfl, ?_⟩
      rw [Ordre.inverse, List.getElem?_reverse (by omega), ← hx]
      congr 1
      omega
  · intro hle ordres id hid
    have hone : pageCount limite ids.length = 1 := by
      by_contra hne
      have hge : 1 ≤ pageCount limite ids.length := Nat.le_max_left ..
      have hlt : 1 < pageCount limite ids.length := by omega
      have := (lt_pageCount_iff hlimit (Nat.le_refl 1)).mp hlt
      omega
    have hperm := (ordres 1).perm ids
    obtain ⟨q, ⟨⟨hq, hqle⟩, hmem⟩, -⟩ := existsUnique_mem_page hlimit
      (hperm.nodup_iff.mpr hids) (hperm.mem_iff.mpr hid)
    rw [hperm.length_eq] at hqle
    obtain rfl : q = 1 := by omega
    refine ⟨1, (surPage_iff h hids hlen ordres).mpr ⟨⟨by omega, by omega⟩, hmem⟩, ?_⟩
    intro p hp
    have := ((surPage_iff h hids hlen ordres).mp hp).1
    omega

end Paginator

/-! ### A search of a table -/

theorem length_le_of_nodup {l : List ℕ} (hl : l.Nodup) {n : ℕ} (hn : ∀ x ∈ l, x ≤ n) :
    l.length ≤ n + 1 := by
  have hsub : l ⊆ List.range (n + 1) := fun x hx => List.mem_range.mpr (Nat.lt_succ_of_le (hn x hx))
  simpa using (hl.subperm hsub).length_le

/-- The ids of a query and what is loaded for them, as a search of a table for the rows that meet a
condition. -/
structure Recherche {ρ β : Type} [Keyed ρ] (t : Table ρ) (ok : ρ → Prop) (cle : β → ℕ)
    (ids : List ℕ) (charger : List ℕ → List β) : Prop where
  nodup : ids.Nodup
  mem_iff : ∀ id, id ∈ ids ↔ ∃ r ∈ t.rows, Keyed.key r = id ∧ ok r
  int : ∀ r ∈ t.rows, Keyed.key r ≤ intMax
  charge : ChargeExacte cle ids charger

namespace Recherche

variable {ρ β : Type} [Keyed ρ] {t : Table ρ} {ok : ρ → Prop} {cle : β → ℕ} {ids : List ℕ}
  {charger : List ℕ → List β} (h : Recherche t ok cle ids charger)

include h

theorem length_le : ids.length ≤ intMax + 1 := by
  refine length_le_of_nodup h.nodup fun id hid => ?_
  obtain ⟨r, hr, rfl, -⟩ := (h.mem_iff id).mp hid
  exact h.int r hr

theorem key_mem_iff {r : ρ} (hr : r ∈ t.rows) : Keyed.key r ∈ ids ↔ ok r := by
  rw [h.mem_iff]
  constructor
  · rintro ⟨r', hr', hkey, hok⟩
    rwa [← t.eq_of_key_eq hr' hr hkey]
  · intro hok
    exact ⟨r, hr, rfl, hok⟩

/-- There are as many ids as rows that meet the condition. -/
theorem length_eq [DecidablePred ok] : ids.length = t.count fun r => ok r := by
  have hnodup : ((t.select fun r => ok r).map Keyed.key).Nodup :=
    t.nodup.sublist (List.filter_sublist.map _)
  have hperm : ids.Perm ((t.select fun r => ok r).map Keyed.key) := by
    refine (List.perm_ext_iff_of_nodup h.nodup hnodup).mpr fun id => ?_
    rw [h.mem_iff, List.mem_map]
    simp only [Table.mem_select, decide_eq_true_eq]
    exact exists_congr fun r => by tauto
  rw [hperm.length_eq, List.length_map, Table.length_select]

/-- With one order, the pages are the windows of a list of the rows found. -/
theorem pages (ordre : Ordre) : ∃ l : List ℕ, l.Nodup ∧
    (∀ id, id ∈ l ↔ ∃ r ∈ t.rows, Keyed.key r = id ∧ ok r) ∧
      PagesExactes cle l fun p => paginer ordre ids charger p limite := by
  refine ⟨ordre.lister ids, (ordre.perm ids).nodup_iff.mpr h.nodup, fun id => ?_,
    pagesExactes h.charge h.nodup h.length_le ordre⟩
  rw [(ordre.perm ids).mem_iff, h.mem_iff]

/-- A row is on one of the pages exactly when it meets the condition. -/
theorem exists_surPage_iff (ordre : Ordre) {r : ρ} (hr : r ∈ t.rows) :
    (∃ p, SurPage cle (fun p => paginer ordre ids charger p limite) (Keyed.key r) p) ↔ ok r := by
  rw [← h.key_mem_iff hr]
  constructor
  · rintro ⟨p, hp⟩
    have hmem := ((surPage_iff h.charge h.nodup h.length_le fun _ => ordre).mp hp).2
    exact (ordre.perm ids).subset ((window_sublist ..).subset hmem)
  · intro hid
    have hpages := pagesExactes h.charge h.nodup h.length_le ordre
    exact (hpages.une _ ((ordre.perm ids).mem_iff.mpr hid)).exists

/-- With an order for each request, every row found is on exactly one page if and only if one page
holds them all. -/
theorem browsing_iff [DecidablePred ok] :
    (∀ ordres : ℤ → Ordre, ∀ r ∈ t.rows, ok r → ∃! p,
        SurPage cle (fun p => paginer (ordres p) ids charger p limite) (Keyed.key r) p) ↔
      (t.count fun r => ok r) ≤ limite := by
  rw [← h.length_eq, ← existsUnique_surPage_iff h.charge h.nodup h.length_le]
  refine forall_congr' fun ordres => ⟨fun hall id hid => ?_, fun hall r hr hok => ?_⟩
  · obtain ⟨r, hr, rfl, hok⟩ := (h.mem_iff id).mp hid
    exact hall r hr hok
  · exact hall _ ((h.key_mem_iff hr).mpr hok)

end Recherche

/-! ### Books -/

/-- A criterion on the joined row: present, it asks for one of the rows that are joined. -/
theorem exists_critere_iff {α : Type} {rows : List α} {b : Bool} {p : α → Bool} :
    (∃ o ∈ orNull rows, (!b || o.any p) = true) ↔ (b = true → ∃ y ∈ rows, p y = true) := by
  cases b with
  | false => simpa using exists_mem_orNull rows
  | true => simpa using exists_orNull_iff

section Livres

open LivreRepository

variable (like : String → String → Bool) (c : Catalogue) (titre auteur categorie : Option String)

/-- A book matches the criteria that are present: its title, one of its authors by name or first
name, one of its categories. -/
def Correspond (l : LivreRow) : Prop :=
  (truthy titre = true → like l.titre (motif titre) = true) ∧
    (truthy auteur = true → ∃ a ∈ c.auteursDe l,
      (like a.nom (motif auteur) || like a.prenom (motif auteur)) = true) ∧
    (truthy categorie = true → ∃ k ∈ c.categoriesDe l, like k.nom (motif categorie) = true)

instance (l : LivreRow) : Decidable (Correspond like c titre auteur categorie l) :=
  inferInstanceAs (Decidable (_ ∧ _ ∧ _))

theorem mem_lignesGardees {l : LivreRow} {a : Option AuteurRow} {k : Option CategorieRow} :
    ((l, a), k) ∈ lignesGardees like c titre auteur categorie ↔
      l ∈ c.livre.rows ∧ a ∈ orNull (c.auteursDe l) ∧ k ∈ orNull (c.categoriesDe l) ∧
        garde like titre auteur categorie ((l, a), k) = true := by
  rw [lignesGardees, List.mem_filter, lignes, mem_leftJoin, mem_leftJoin]
  tauto

/-- A book has a kept row exactly when it matches: the conditions on its title, its author and its
category do not depend on each other. -/
theorem exists_garde_iff {l : LivreRow} :
    (∃ a ∈ orNull (c.auteursDe l), ∃ k ∈ orNull (c.categoriesDe l),
        garde like titre auteur categorie ((l, a), k) = true) ↔
      Correspond like c titre auteur categorie l := by
  unfold Correspond
  rw [← exists_critere_iff, ← exists_critere_iff]
  simp only [garde, Bool.and_eq_true]
  constructor
  · rintro ⟨a, ha, k, hk, ⟨htitre, hauteur⟩, hcategorie⟩
    exact ⟨by simpa [imp_iff_not_or] using htitre, ⟨a, ha, hauteur⟩, ⟨k, hk, hcategorie⟩⟩
  · rintro ⟨htitre, ⟨a, ha, hauteur⟩, ⟨k, hk, hcategorie⟩⟩
    exact ⟨a, ha, k, hk, ⟨by simpa [imp_iff_not_or] using htitre, hauteur⟩, hcategorie⟩

/-- **The ids of the query** are those of the matching books. -/
theorem mem_ids_iff {id : ℕ} : id ∈ ids like c titre auteur categorie ↔
    ∃ l ∈ c.livre.rows, l.id = id ∧ Correspond like c titre auteur categorie l := by
  simp only [ids, List.mem_dedup, List.mem_map, ← exists_garde_iff]
  constructor
  · rintro ⟨⟨⟨l, a⟩, k⟩, hrow, rfl⟩
    obtain ⟨hl, ha, hk, hgarde⟩ := (mem_lignesGardees ..).mp hrow
    exact ⟨l, hl, rfl, a, ha, k, hk, hgarde⟩
  · rintro ⟨l, hl, rfl, a, ha, k, hk, hgarde⟩
    exact ⟨((l, a), k), (mem_lignesGardees ..).mpr ⟨hl, ha, hk, hgarde⟩, rfl⟩

theorem map_livre_hydrater (rows : List Ligne) :
    (hydrater rows).map LivreLu.livre = (rows.map fun r => r.1.1).dedup := by
  simp [hydrater, Function.comp_def]

/-- The key of a loaded book. -/
def LivreLu.id (x : LivreLu) : ℕ := x.livre.id

/-- The books loaded for ids of the query. -/
theorem chargeExacte_livres : ChargeExacte LivreLu.id (ids like c titre auteur categorie) fun w =>
    hydrater ((lignesGardees like c titre auteur categorie).filter
      fun r => w.contains r.1.1.id) := by
  intro w hw hsub
  have hmap : ∀ rows, (hydrater rows).map LivreLu.id
      = ((rows.map fun r => r.1.1).dedup).map LivreRow.id := fun rows => by
    rw [← map_livre_hydrater, List.map_map]
    rfl
  rw [hmap]
  -- both lists are without repetition, so they are compared by their elements
  refine (List.perm_ext_iff_of_nodup ?_ hw).mpr fun id => ?_
  · refine (List.nodup_dedup _).map_on fun l hl l' hl' hid => ?_
    simp only [List.mem_dedup, List.mem_map, List.mem_filter] at hl hl'
    obtain ⟨⟨⟨l₁, a⟩, k⟩, ⟨hrow, -⟩, rfl⟩ := hl
    obtain ⟨⟨⟨l₂, a'⟩, k'⟩, ⟨hrow', -⟩, rfl⟩ := hl'
    exact c.livre.eq_of_key_eq ((mem_lignesGardees ..).mp hrow).1
      ((mem_lignesGardees ..).mp hrow').1 hid
  · simp only [List.mem_map, List.mem_dedup, List.mem_filter, List.contains_iff_mem]
    constructor
    · rintro ⟨_, ⟨r, ⟨-, hr⟩, rfl⟩, rfl⟩
      exact hr
    · intro hid
      have hmem := hsub hid
      simp only [ids, List.mem_dedup, List.mem_map] at hmem
      obtain ⟨r, hr, rfl⟩ := hmem
      exact ⟨_, ⟨r, ⟨hr, hid⟩, rfl⟩, rfl⟩

/-- The search of books. -/
theorem recherche_livres : Recherche c.livre (Correspond like c titre auteur categorie) LivreLu.id
    (ids like c titre auteur categorie) fun w =>
      hydrater ((lignesGardees like c titre auteur categorie).filter
        fun r => w.contains r.1.1.id) where
  nodup := List.nodup_dedup _
  mem_iff := fun _ => mem_ids_iff ..
  int := c.livre_int
  charge := chargeExacte_livres like c titre auteur categorie

end Livres

/-! ### Authors -/

section Auteurs

open AuteurRepository

variable (like : String → String → Bool) (c : Catalogue) (nom : Option String)

/-- An author matches the criterion, if there is one, by name or first name. -/
def CorrespondAuteur (a : AuteurRow) : Prop :=
  truthy nom = true → (like a.nom (motif nom) || like a.prenom (motif nom)) = true

instance (a : AuteurRow) : Decidable (CorrespondAuteur like nom a) :=
  inferInstanceAs (Decidable (_ → _))

theorem garde_auteur_iff {a : AuteurRow} :
    AuteurRepository.garde like nom a = true ↔ CorrespondAuteur like nom a := by
  unfold AuteurRepository.garde CorrespondAuteur
  cases truthy nom <;> simp

theorem mem_ids_auteurs_iff {id : ℕ} : id ∈ AuteurRepository.ids like c nom ↔
    ∃ a ∈ c.auteur.rows, a.id = id ∧ CorrespondAuteur like nom a := by
  simp only [AuteurRepository.ids, List.mem_dedup, List.mem_map, Table.mem_select,
    garde_auteur_iff]
  constructor
  · rintro ⟨a, ⟨ha, hgarde⟩, rfl⟩
    exact ⟨a, ha, rfl, hgarde⟩
  · rintro ⟨a, ha, rfl, hgarde⟩
    exact ⟨a, ⟨ha, hgarde⟩, rfl⟩

/-- The authors loaded for ids of the query. -/
theorem chargeExacte_auteurs : ChargeExacte AuteurRow.id (AuteurRepository.ids like c nom) fun w =>
    (c.auteur.select (AuteurRepository.garde like nom)).filter fun a => w.contains a.id := by
  intro w hw hsub
  refine (List.perm_ext_iff_of_nodup ?_ hw).mpr fun id => ?_
  · have hsublist := (List.filter_sublist (p := fun a : AuteurRow => w.contains a.id)).trans
      (List.filter_sublist (p := AuteurRepository.garde like nom) (l := c.auteur.rows))
    exact c.auteur.nodup.sublist (hsublist.map _)
  · simp only [List.mem_map, List.mem_filter, List.contains_iff_mem]
    constructor
    · rintro ⟨a, ⟨-, ha⟩, rfl⟩
      exact ha
    · intro hid
      have hmem := hsub hid
      simp only [AuteurRepository.ids, List.mem_dedup, List.mem_map] at hmem
      obtain ⟨a, ha, rfl⟩ := hmem
      exact ⟨a, ⟨ha, hid⟩, rfl⟩

/-- The search of authors. -/
theorem recherche_auteurs : Recherche c.auteur (CorrespondAuteur like nom) AuteurRow.id
    (AuteurRepository.ids like c nom) fun w =>
      (c.auteur.select (AuteurRepository.garde like nom)).filter fun a => w.contains a.id where
  nodup := List.nodup_dedup _
  mem_iff := fun _ => mem_ids_auteurs_iff ..
  int := c.auteur_int
  charge := chargeExacte_auteurs like c nom

end Auteurs

/-! ### Both searches -/

variable (like : String → String → Bool) (c : Catalogue)

/-- **Pages of a search.**  With one order of the ids for all requests: there is a list of the
matching books, without repetition, such that page `p` is its `p`-th window exactly when the offset
of the page is an integer of PHP; every matching book is on exactly one of the pages, every page
before the last is full and every page after it is empty.  The same holds for authors. -/
theorem search_pages (ordre : Ordre) (titre auteur categorie nom : Option String) :
    (∃ livres : List ℕ, livres.Nodup ∧
      (∀ id, id ∈ livres ↔ ∃ l ∈ c.livre.rows, l.id = id ∧
        Correspond like c titre auteur categorie l) ∧
      PagesExactes LivreLu.id livres fun p =>
        LivreRepository.findBySearchCriteria like ordre c titre auteur categorie p limite) ∧
    ∃ auteurs : List ℕ, auteurs.Nodup ∧
      (∀ id, id ∈ auteurs ↔ ∃ a ∈ c.auteur.rows, a.id = id ∧ CorrespondAuteur like nom a) ∧
      PagesExactes AuteurRow.id auteurs fun p =>
        AuteurRepository.findBySearchCriteria like ordre c nom p limite := by
  constructor
  · exact (recherche_livres like c titre auteur categorie).pages ordre
  · exact (recherche_auteurs like c nom).pages ordre

/-- The last page number of PHP: its offset is no integer, and the request for it is not
answered. -/
theorem search_page_without_offset :
    let reponse := LivreRepository.findBySearchCriteria Exemple.like .direct Exemple.catalogue
      none none none 9223372036854775807 limite
    reponse = none ∧ ∀ livres, ¬ PageExacte LivreLu.id livres 9223372036854775807 reponse := by
  intro reponse
  have hnone : reponse = none := by decide
  refine ⟨hnone, fun livres h => ?_⟩
  obtain ⟨res, hres, -⟩ := h
  exact absurd (hnone.symm.trans hres) nofun

/-- **Browsing the pages.**  Each request may meet an order of its own, since the queries have no
`ORDER BY`.  Whatever these orders are, every matching book is on exactly one page if and only if
at most nine books match; the same holds for authors. -/
theorem browsing_complete_iff (titre auteur categorie nom : Option String) :
    ((∀ ordres : ℤ → Ordre, ∀ l ∈ c.livre.rows, Correspond like c titre auteur categorie l →
        ∃! p, SurPage LivreLu.id (fun p => LivreRepository.findBySearchCriteria like (ordres p) c
          titre auteur categorie p limite) l.id p) ↔
      (c.livre.count fun l => Correspond like c titre auteur categorie l) ≤ limite) ∧
    ((∀ ordres : ℤ → Ordre, ∀ a ∈ c.auteur.rows, CorrespondAuteur like nom a →
        ∃! p, SurPage AuteurRow.id (fun p => AuteurRepository.findBySearchCriteria like (ordres p) c
          nom p limite) a.id p) ↔
      (c.auteur.count fun a => CorrespondAuteur like nom a) ≤ limite) := by
  constructor
  · exact (recherche_livres like c titre auteur categorie).browsing_iff
  · exact (recherche_auteurs like c nom).browsing_iff

/-- Ten books match, and the second request meets the reverse order: the first book is on both
pages, and the last one on none. -/
theorem browsing_repeats_first_book :
    let chercher := fun p : ℤ => LivreRepository.findBySearchCriteria Exemple.like
      (if p = 1 then .direct else .inverse) Exemple.catalogue none none none p limite
    ((chercher 1).map fun r => (r.totalPages, r.data.map LivreLu.id))
        = some (2, [1, 2, 3, 4, 5, 6, 7, 8, 9]) ∧
      ((chercher 2).map fun r => (r.totalPages, r.data.map LivreLu.id)) = some (2, [1]) ∧
      ¬ ∃! p, SurPage LivreLu.id chercher 1 p := by
  intro chercher
  have h₁ : ((chercher 1).map fun r => (r.totalPages, r.data.map LivreLu.id))
      = some (2, [1, 2, 3, 4, 5, 6, 7, 8, 9]) := by decide
  have h₂ : ((chercher 2).map fun r => (r.totalPages, r.data.map LivreLu.id)) = some (2, [1]) := by
    decide
  refine ⟨h₁, h₂, ?_⟩
  rintro ⟨q, -, huniq⟩
  obtain ⟨r₁, hr₁, hdata₁⟩ := Option.map_eq_some_iff.mp h₁
  obtain ⟨r₂, hr₂, hdata₂⟩ := Option.map_eq_some_iff.mp h₂
  obtain ⟨htotal₁, hids₁⟩ := Prod.mk.inj hdata₁
  obtain ⟨htotal₂, hids₂⟩ := Prod.mk.inj hdata₂
  have hfirst := huniq 1 ⟨by decide, r₁, hr₁, by omega, by rw [hids₁]; decide⟩
  have hsecond := huniq 2 ⟨by decide, r₂, hr₂, by omega, by rw [hids₂]; decide⟩
  omega

end Biblio
