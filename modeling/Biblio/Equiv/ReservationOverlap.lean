import Biblio.Equiv.Deletion
import Biblio.Equiv.ReservationRules
import Biblio.Equiv.Units
import Biblio.Store.Guard
import Biblio.Store.Keys

/-!
# The limits on reservations under overlapping requests

Every limit is tested by queries and followed by a unit of work of its own transaction, so requests
that overlap can exceed it: each of them may have passed its test before the others wrote.  They
exceed it by at most one less than the number of requests under way at once: the reservations of a
member and of a book are within `2 + k` and `k` in every interleaving of any requests
(`reservations_within_overlap`).  With one request at a time these are the limits themselves.

The argument is that of `Biblio.Store.Guard`: the cells are the reservations that are counted.  The
page EDIT of a reservation leaves the row it is about out of its count, and that row is its target.
-/

namespace Biblio

open Prog Config

/-! ### The units of work -/

/-- The keys of the reservations that meet `p`. -/
def resasDe (p : ReservationsRow → Bool) (s : Tables) : Finset ℕ := s.reservations.keys p

/-- The reservation that a request rewrites. -/
def Requete.resaReecrite : Requete → Option ℕ
  | .reservationsEdit entityId _ => some entityId
  | _ => none

/-- The requests that write reservations otherwise than by deleting them. -/
def Requete.ecritResa : Requete → Bool
  | .reservationsNew _ | .reservationsEdit _ _ | .apiCreate _ _ _ => true
  | _ => false

theorem harmless_of_sansAjoutResa {ws : List Statement} (hws : ∀ w ∈ ws, w.SansAjoutResa)
    (p : ReservationsRow → Bool) : Harmless (resasDe p) ws := by
  intro s s' hc
  refine commit_induct (P := fun t => resasDe p t ⊆ resasDe p s) (fun w hw s₁ s₂ h₁ he => ?_)
    (Finset.Subset.refl _) hc
  rcases hws w hw with hne | ⟨id, rfl⟩
  · unfold resasDe at *
    rw [(exec_frame he).reservations hne]
    exact h₁
  · obtain rfl := Option.some.inj he
    exact (Table.keys_delete_subset _ _ _).trans h₁

/-- The requests that write no reservation but to delete it. -/
theorem sansAjoutResa_unite {services : Services} {r : Requete} {ws : List Statement}
    (h : Unite services r ws) (hr : r.ecritResa = false) : ∀ w ∈ ws, w.SansAjoutResa := by
  have hpret : ∀ (e : Emprunt) (resa : Option ReservationsRow),
      ∀ w ∈ EmpruntCrudController.persistStatements e resa, w.SansAjoutResa := by
    intro e resa w hw
    rcases List.mem_cons.mp hw with rfl | hw
    · exact Or.inl Relation.noConfusion
    · exact Or.inr (eq_delete_of_mem_toList hw)
  intro w hw
  cases h with
  | empruntNew resa => exact hpret _ resa w hw
  | transformerEnEmprunt resa => exact hpret _ (some resa) w hw
  | reservationsNew | reservationsEdit | apiCreate => cases hr
  | utilisateurDelete | livreDelete => exact sansAjoutResa_of_mem_deletes Relation.noConfusion hw
  | reservationsDelete | apiDelete =>
    rw [List.mem_singleton.mp hw]
    exact Or.inr ⟨_, rfl⟩
  | _ =>
    rw [List.mem_singleton.mp hw]
    exact Or.inl Relation.noConfusion

/-- An `UPDATE` of a reservation, whatever has become of the row since it was read. -/
theorem exec_updateReservations_eq {id : ℕ} {o : ReservationsRow} {v : Reservations}
    {s s' : Tables} (h : exec (.updateReservations id o v) s = some s') :
    ∃ d u l, v.dateResa = some d ∧ v.utilisateur = some u ∧ v.livre = some l ∧
      s'.reservations = s.reservations.update id fun r =>
        { r with
          dateResa := changed o.dateResa d r.dateResa
          utilisateur := changed o.utilisateur u r.utilisateur
          livre := changed o.livre l r.livre } := by
  simp only [exec] at h
  split at h
  · next d u l hd hu hl =>
    split_ifs at h
    obtain rfl := (Option.some.inj h).symm
    exact ⟨d, u, l, hd, hu, hl, rfl⟩
  · cases h

/-- A unit of work adds at most one reservation to those counted, the one it rewrites if it
rewrites one. -/
theorem addsOne_unite {services : Services} {r : Requete} {ws : List Statement}
    (h : Unite services r ws) (p : ReservationsRow → Bool) :
    AddsOne (resasDe p) r.resaReecrite ws := by
  have hinsert : ∀ v, AddsOne (resasDe p) none [Statement.insertReservations v] := by
    intro v s s' hc
    obtain ⟨row, -, rfl⟩ := exec_insertReservations (commit_singleton hc)
    exact ⟨_, Table.keys_insert_subset _ _ _, fun i hi => by cases hi⟩
  have hunite := h
  cases h with
  | reservationsNew => exact hinsert _
  | apiCreate => exact hinsert _
  | @reservationsEdit entityId form row =>
    intro s s' hc
    obtain ⟨d, u, l, -, -, -, hs'⟩ := exec_updateReservations_eq (commit_singleton hc)
    refine ⟨entityId, ?_, fun i hi => Option.some.inj hi⟩
    unfold resasDe
    rw [hs']
    exact Table.keys_update_subset _ _ _ _
  | _ => exact (harmless_of_sansAjoutResa (sansAjoutResa_unite hunite rfl) p).addsOne _

/-! ### The rules -/

/-- A limit on reservations: those of a member, or those of a book. -/
inductive RegleResa where
  | parUtilisateur (u : ℕ)
  | surLivre (l : ℕ)

namespace RegleResa

/-- The reservations it counts. -/
def compte : RegleResa → ReservationsRow → Bool
  | parUtilisateur u => resaParUtilisateur u
  | surLivre l => resaSurLivre l

/-- How many of them there may be beside a new one. -/
def limite : RegleResa → ℕ
  | parUtilisateur _ => 2
  | surLivre _ => 0

/-- The reservations that it is about. -/
def Concerne (v : Reservations) : RegleResa → Prop
  | parUtilisateur u => v.utilisateur = some u
  | surLivre l => v.livre = some l

variable {g : RegleResa} {v : Reservations}

/-- A row with the member and the book of `v`, as far as the rule looks. -/
theorem concerne_of_compte (row : ReservationsRow) (hu : v.utilisateur = some row.utilisateur)
    (hl : v.livre = some row.livre) (h : g.compte row = true) : g.Concerne v := by
  cases g with
  | parUtilisateur u =>
    simp only [compte, resaParUtilisateur, beq_iff_eq] at h
    exact h ▸ hu
  | surLivre l =>
    simp only [compte, resaSurLivre, beq_iff_eq] at h
    exact h ▸ hl

theorem harmless_insert (hv : ¬ g.Concerne v) :
    Harmless (resasDe g.compte) [.insertReservations v] := by
  intro s s' hc
  obtain ⟨row, hrow, rfl⟩ := exec_insertReservations (commit_singleton hc)
  refine Table.keys_insert_of_not _ ?_
  rw [← Bool.not_eq_true]
  intro h
  let posee : ReservationsRow := Keyed.withKey s.reservations.next row
  exact hv (concerne_of_compte posee hrow.utilisateur hrow.livre h)

theorem harmless_update (hv : ¬ g.Concerne v) (id : ℕ) (o : ReservationsRow) :
    Harmless (resasDe g.compte) [.updateReservations id o v] := by
  intro s s' hc
  obtain ⟨d, u, l, -, hu, hl, hs'⟩ := exec_updateReservations_eq (commit_singleton hc)
  unfold resasDe
  rw [hs']
  refine Table.keys_update_of_imp _ fun r hr => ?_
  -- each of the two columns has its value of before, or that of `v`
  cases g with
  | parUtilisateur u' =>
    simp only [compte, resaParUtilisateur, Keyed.withKey, beq_iff_eq] at hr ⊢
    rcases changed_eq_or o.utilisateur u r.utilisateur with h | h
    · rw [← h]
      exact hr
    · exact absurd (hu.trans (congrArg some (h.symm.trans hr))) hv
  | surLivre l' =>
    simp only [compte, resaSurLivre, Keyed.withKey, beq_iff_eq] at hr ⊢
    rcases changed_eq_or o.livre l r.livre with h | h
    · rw [← h]
      exact hr
    · exact absurd (hl.trans (congrArg some (h.symm.trans hr))) hv

end RegleResa

/-! ### The tests -/

/-- What the test of a request counts. -/
theorem passes_resas {p : ReservationsRow → Bool} {n : ℕ} {r : Requete} {s : Tables} :
    Passes (resasDe p) Requete.resaReecrite n r s ↔
      s.reservations.others (r.resaReecrite.getD 0) p ≤ n := by
  unfold Passes resasDe
  rw [Table.card_keys_sdiff_toFinset]

/-- The handler of `r` adds a reservation to those that `g` counts only after the test of `g`. -/
abbrev TesteResa (g : RegleResa) (r : Requete) (p : Handler) : Prop :=
  Tests (resasDe g.compte) Requete.resaReecrite g.limite r p

/-- `ReservationRulesValidator::validate` before a rest that does nothing once a violation is
reported. -/
theorem teste_validate {g : RegleResa} {r : Requete} {value : Reservations}
    {f : List Violation → Handler} (hid : value.id = r.resaReecrite) (hg : g.Concerne value)
    (hu : value.utilisateur ≠ none) (hl : value.livre ≠ none)
    (hf : ∀ v, v ≠ [] → TesteResa g r (f v)) :
    TesteResa g r (ReservationRulesValidator.validate value >>= f) := by
  obtain ⟨u, hu⟩ := Option.ne_none_iff_exists'.mp hu
  obtain ⟨l, hl⟩ := Option.ne_none_iff_exists'.mp hl
  unfold ReservationRulesValidator.validate
  rw [hu, hl, hid]
  refine .query fun s hs => .query fun s' hs' => .query fun s'' _ => hf _ ?_
  rw [passes_resas, not_le] at hs hs'
  cases g with
  | parUtilisateur u' =>
    -- the first rule has reported
    obtain rfl : u = u' := Option.some.inj (hu.symm.trans hg)
    have hlen : (s.reservations.select fun e =>
        e.utilisateur == u && e.id != r.resaReecrite.getD 0).length ≥ 3 := by
      rw [Table.length_select]
      exact hs
    rw [if_pos hlen]
    exact List.cons_ne_nil _ _
  | surLivre l' =>
    -- the second rule has reported
    obtain rfl : l = l' := Option.some.inj (hl.symm.trans hg)
    have hlen : (s'.reservations.select fun e =>
        e.livre == l && e.id != r.resaReecrite.getD 0).length > 0 := by
      rw [Table.length_select]
      exact hs'
    rw [if_pos hlen]
    simp

/-- A reservation that lacks its member or its book is refused by the database. -/
theorem harmless_incomplete {p : ReservationsRow → Bool} {w : Statement} {v : Reservations}
    (hw : w = .insertReservations v ∨ ∃ id o, w = .updateReservations id o v)
    (hv : v.utilisateur = none ∨ v.livre = none) : Harmless (resasDe p) [w] := by
  intro s s' hc
  rcases hw with rfl | ⟨id, o, rfl⟩
  · obtain ⟨row, hrow, -⟩ := exec_insertReservations (commit_singleton hc)
    rcases hv with h | h
    · cases h.symm.trans hrow.utilisateur
    · cases h.symm.trans hrow.livre
  · obtain ⟨d, u, l, -, hu, hl, -⟩ := exec_updateReservations_eq (commit_singleton hc)
    rcases hv with h | h
    · cases h.symm.trans hu
    · cases h.symm.trans hl

/-- The end of the pages NEW and EDIT of a reservation: the validator, and the flush of `v`. -/
theorem teste_page {g : RegleResa} {r : Requete} {v : Reservations} {w : Statement}
    (hid : v.id = r.resaReecrite)
    (hw : w = .insertReservations v ∨ ∃ id o, w = .updateReservations id o v) :
    TesteResa g r (do
      let violations ← ReservationRulesValidator.validate v
      if violations = [] then do
        let committed ← save [w]
        return apresFlush committed
      else return .formulaireInvalide violations) := by
  by_cases hv : g.Concerne v ∧ v.utilisateur ≠ none ∧ v.livre ≠ none
  · obtain ⟨hg, hu, hl⟩ := hv
    refine teste_validate hid hg hu hl fun viol hviol => ?_
    rw [if_neg hviol]
    exact .done _
  · have hharmless : Harmless (resasDe g.compte) [w] := by
      by_cases hg : g.Concerne v
      · refine harmless_incomplete hw ?_
        by_contra hcomplete
        rw [not_or] at hcomplete
        exact hv ⟨hg, hcomplete⟩
      · rcases hw with rfl | ⟨id, o, rfl⟩
        · exact g.harmless_insert hg
        · exact g.harmless_update hg id o
    refine (readOnly_validateResa v).guarded_bind fun violations => ?_
    split
    · exact .flush hharmless fun b => .done _
    · exact .done _

theorem teste_reservationsNew (g : RegleResa) (form : Reservations) :
    TesteResa g (.reservationsNew form) (ReservationsCrudController.new form) := by
  unfold ReservationsCrudController.new
  refine (readOnly_choixUtilisateur _).guarded_bind fun v =>
    (readOnly_choixLivre _).guarded_bind fun v' => ?_
  split
  · exact .done _
  · split
    · exact teste_page rfl (Or.inl rfl)
    · exact .done _

theorem teste_reservationsEdit (g : RegleResa) (entityId : ℕ) (form : Reservations) :
    TesteResa g (.reservationsEdit entityId form)
      (ReservationsCrudController.edit entityId form) := by
  unfold ReservationsCrudController.edit
  rw [read_bind]
  refine .query fun s _ => ?_
  split
  · exact .done _
  · refine (readOnly_choixUtilisateur _).guarded_bind fun v =>
      (readOnly_choixLivre _).guarded_bind fun v' => ?_
    split
    · exact .done _
    · split
      · exact teste_page rfl (Or.inr ⟨_, _, rfl⟩)
      · exact .done _

theorem teste_apiCreate (services : Services) (g : RegleResa) (user livre : ℕ) (now : Instant) :
    TesteResa g (.apiCreate user livre now) (ReservationsController.create user livre now) := by
  -- the request tests the member first, and the book next
  have hquota : TesteResa g (.apiCreate user livre now)
      (ReservationsController.regleQuota user livre now) := by
    by_cases hg : g.Concerne ⟨none, some (toDatetime now), some user, some livre⟩
    · unfold ReservationsController.regleQuota
      rw [read_bind]
      refine .query fun s hs => ?_
      rw [passes_resas, not_le] at hs
      split
      · exact .done _
      next hlen =>
      unfold ReservationsController.regleReserve
      rw [read_bind]
      refine .query fun s' hs' => ?_
      rw [passes_resas, not_le] at hs'
      cases g with
      | parUtilisateur u =>
        obtain rfl : user = u := Option.some.inj hg
        rw [length_resas] at hlen
        exact absurd (hs.trans_eq (Table.others_zero _ _)) hlen
      | surLivre l =>
        obtain rfl : livre = l := Option.some.inj hg
        have hsome : (s'.reservations.rows.find? fun r => r.livre == livre).isSome = true := by
          rw [← Bool.not_eq_false, find_resa_isSome]
          exact Nat.ne_of_gt (hs'.trans_eq (Table.others_zero _ _))
        rw [if_pos hsome]
        exact .done _
    · refine (finitPar_regleQuota services user livre now).guarded fun ws _ hunite => ?_
      cases hunite with
      | apiCreate => exact g.harmless_insert hg
  unfold ReservationsController.create
  rw [read_bind]
  refine .query fun s _ => ?_
  split
  · exact .done _
  unfold ReservationsController.resoudreLivre
  rw [read_bind]
  refine .query fun s _ => ?_
  split
  · exact .done _
  · exact hquota

/-- Every request adds a reservation to those that a rule counts only after the test of the
rule. -/
theorem teste_requete (services : Services) (g : RegleResa) (r : Requete) :
    TesteResa g r (r.handler services) := by
  have hends := endsBy_requete services r
  cases r with
  | reservationsNew form => exact teste_reservationsNew g form
  | reservationsEdit entityId form => exact teste_reservationsEdit g entityId form
  | apiCreate user livre now => exact teste_apiCreate services g user livre now
  | _ =>
    exact hends.guarded fun ws _ h => harmless_of_sansAjoutResa (sansAjoutResa_unite h rfl) _

/-- At most `k` requests are under way after every event. -/
def AuPlus (services : Services) (k : ℕ) (c : Config Tables Statement Reponse Requete)
    (e : Event Requete) : Prop :=
  (c.step (Requete.handler services) e).underWay ≤ k

instance (services : Services) (k : ℕ) (c : Config Tables Statement Reponse Requete)
    (e : Event Requete) : Decidable (AuPlus services k c e) :=
  inferInstanceAs (Decidable (_ ≤ _))

/-- **Reservations under overlapping requests.**  From tables that respect the limits, in every
interleaving of any requests with at most `k` of them under way at once, a member has at most
`2 + k` reservations and a book at most `k`. -/
theorem reservations_within_overlap (services : Services) (k : ℕ) (hk : 0 < k) (s : Tables)
    (hs : ResasBornees s) (es : List (Event Requete))
    (hes : Along (Config.step (Requete.handler services)) (AuPlus services k) (.idle s) es) :
    (∀ u, (run (Config.step (Requete.handler services)) (.idle s) es).store.resasUtilisateur u
        ≤ 2 + k) ∧
      ∀ l, (run (Config.step (Requete.handler services)) (.idle s) es).store.resasLivre l ≤ k := by
  have hregle : ∀ g : RegleResa, s.reservations.count g.compte ≤ g.limite + k →
      (run (Config.step (Requete.handler services)) (.idle s) es).store.reservations.count g.compte
        ≤ g.limite + k := by
    intro g hg
    rw [← Table.card_keys] at hg ⊢
    change (resasDe g.compte s).card ≤ _ at hg
    exact card_cells_le hg es (fun r _ => teste_requete services g r)
      (fun r _ => (endsBy_requete services r).mono fun ws _ h => addsOne_unite h _) hes
  refine ⟨fun u => hregle (.parUtilisateur u) ?_, fun l => ?_⟩
  · have := hs.utilisateur u
    unfold Tables.resasUtilisateur at this
    show s.reservations.count (resaParUtilisateur u) ≤ 2 + k
    omega
  · have := hs.livre l
    have := hregle (.surLivre l) (by
      unfold Tables.resasLivre at this
      show s.reservations.count (resaSurLivre l) ≤ 0 + k
      omega)
    rw [RegleResa.limite, Nat.zero_add] at this
    exact this

/-- Two members reserve one book: each has passed the tests before the other writes. -/
theorem reservations_within_overlap_same_book :
    let es := [.arrive (.apiCreate 5 1 0), .arrive (.apiCreate 6 1 0)] ++
      (List.replicate 6 [.advance 0, .advance 1]).flatten
    let s' := (run (Config.step (Requete.handler Exemple.services))
      (.idle (Exemple.tables .empty .empty)) es).store
    s'.resasLivre 1 = 2 ∧ s'.resasLivre 1 ≤ 2 ∧ s'.resasUtilisateur 5 ≤ 2 + 2 := by
  have h := reservations_within_overlap Exemple.services 2 (by decide)
    (Exemple.tables .empty .empty) (.of_rows_eq_nil rfl)
    ([.arrive (.apiCreate 5 1 0), .arrive (.apiCreate 6 1 0)] ++
      (List.replicate 6 [.advance 0, .advance 1]).flatten) (by decide)
  exact ⟨by decide, h.2 1, h.1 5⟩

end Biblio
