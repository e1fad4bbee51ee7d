import Biblio.Equiv.LoanRules
import Biblio.Equiv.ReservationOverlap

/-!
# The limits on loans under overlapping requests

The open loans of a member and of a book are within `4 + k` and `k` in every interleaving of
requests other than the page EDIT of a loan, with at most `k` of them under way at once
(`loans_within_overlap`).  The argument is that of `Biblio.Equiv.ReservationOverlap`; the cells are
the open loans.  The page EDIT of a loan writes the columns it changes without having tested what
they give together with those it leaves: a returned loan passes unchecked, and may have been
reopened since.
-/

namespace Biblio

open Prog Config

/-! ### The units of work -/

/-- The keys of the loans that meet `p`. -/
def empruntsDe (p : EmpruntRow → Bool) (s : Tables) : Finset ℕ := s.emprunt.keys p

/-- A limit on open loans: those of a member, or those of a book. -/
inductive RegleEmprunt where
  | parUtilisateur (u : ℕ)
  | surLivre (l : ℕ)

namespace RegleEmprunt

/-- The loans it counts. -/
def compte : RegleEmprunt → EmpruntRow → Bool
  | parUtilisateur u => Biblio.parUtilisateur u
  | surLivre l => Biblio.surLivre l

/-- How many of them there may be beside a new one. -/
def limite : RegleEmprunt → ℕ
  | parUtilisateur _ => 4
  | surLivre _ => 0

/-- The loans that it is about. -/
def Concerne (v : Emprunt) : RegleEmprunt → Prop
  | parUtilisateur u => v.utilisateur = some u
  | surLivre l => v.livre = some l

variable {g : RegleEmprunt}

theorem concerne_of_compte {v : Emprunt} (row : EmpruntRow)
    (hu : v.utilisateur = some row.utilisateur) (hl : v.livre = some row.livre)
    (h : g.compte row = true) : g.Concerne v := by
  cases g with
  | parUtilisateur u =>
    simp only [compte, Biblio.parUtilisateur, Bool.and_eq_true, beq_iff_eq] at h
    exact h.1 ▸ hu
  | surLivre l =>
    simp only [compte, Biblio.surLivre, Bool.and_eq_true, beq_iff_eq] at h
    exact h.1 ▸ hl

theorem harmless_pret {e : Emprunt} (he : ¬ g.Concerne e) (resa : Option ReservationsRow) :
    Harmless (empruntsDe g.compte) (EmpruntCrudController.persistStatements e resa) := by
  intro s s' hc
  obtain ⟨row, hrow, rfl⟩ := commit_persistStatements hc
  refine Table.keys_insert_of_not _ ?_
  rw [← Bool.not_eq_true]
  exact fun h =>
    he (concerne_of_compte (Keyed.withKey s.emprunt.next row) hrow.utilisateur hrow.livre h)

/-- A return changes the return date alone, and leaves no loan open that was not. -/
theorem harmless_retour (row : EmpruntRow) (now : Instant) :
    Harmless (empruntsDe g.compte) [EmpruntCrudController.retour row now] := by
  have hopen : ∀ d : Option Datetime,
      (changed row.dateRetour (some (toDatetime now)) d).isNone = true → d.isNone = true := by
    intro d h
    rcases changed_eq_or row.dateRetour (some (toDatetime now)) d with hd | hd
    · rw [hd] at h
      exact h
    · rw [hd] at h
      cases h
  intro s s' hc
  have hexec := commit_singleton hc
  simp only [EmpruntCrudController.retour, exec, EmpruntRow.toEntity] at hexec
  split_ifs at hexec
  obtain rfl := (Option.some.inj hexec).symm
  refine Table.keys_update_of_imp _ fun r hr => ?_
  cases g with
  | parUtilisateur u =>
    simp only [compte, Biblio.parUtilisateur, EmpruntRow.enCours, Keyed.withKey, changed, if_true,
      Bool.and_eq_true] at hr ⊢
    exact ⟨hr.1, hopen _ hr.2⟩
  | surLivre l =>
    simp only [compte, Biblio.surLivre, EmpruntRow.enCours, Keyed.withKey, changed, if_true,
      Bool.and_eq_true] at hr ⊢
    exact ⟨hr.1, hopen _ hr.2⟩

/-- A unit of work that leaves the loans as they are. -/
theorem harmless_of_cible_ne {ws : List Statement} (h : ∀ w ∈ ws, w.cible ≠ .emprunt)
    (p : EmpruntRow → Bool) : Harmless (empruntsDe p) ws := by
  intro s s' hc
  unfold empruntsDe
  rw [commit_emprunt_eq h hc]

end RegleEmprunt

/-- The requests other than the page EDIT of a loan. -/
def Requete.horsEdition : Requete → Bool
  | .empruntEdit _ _ => false
  | _ => true

/-- The requests that open loans, but for the page EDIT. -/
def Requete.prete : Requete → Bool
  | .empruntNew _ _ | .transformerEnEmprunt _ _ => true
  | _ => false

open RegleEmprunt in
theorem harmless_unite_of_not_prete {services : Services} {r : Requete} {ws : List Statement}
    (h : Unite services r ws) (hr : r.prete = false) (hedit : r.horsEdition = true)
    (g : RegleEmprunt) : Harmless (empruntsDe g.compte) ws := by
  cases h with
  | empruntNew | transformerEnEmprunt => cases hr
  | empruntEdit => cases hedit
  | rendreLivre row => exact harmless_retour row _
  | empruntDelete =>
    intro s s' hc
    obtain rfl := Option.some.inj (commit_singleton hc)
    exact Table.keys_delete_subset _ _ _
  | utilisateurDelete | livreDelete =>
    exact harmless_of_cible_ne
      (fun w hw => cible_ne_of_mem_deletes Relation.noConfusion Relation.noConfusion hw) _
  | _ =>
    refine harmless_of_cible_ne (fun w hw => ?_) _
    rw [List.mem_singleton.mp hw]
    exact Relation.noConfusion

theorem addsOne_unite_emprunt {services : Services} {r : Requete} {ws : List Statement}
    (h : Unite services r ws) (hedit : r.horsEdition = true) (g : RegleEmprunt) :
    AddsOne (empruntsDe g.compte) none ws := by
  have hpret : ∀ e resa,
      AddsOne (empruntsDe g.compte) none (EmpruntCrudController.persistStatements e resa) := by
    intro e resa s s' hc
    obtain ⟨row, -, rfl⟩ := commit_persistStatements hc
    exact ⟨_, Table.keys_insert_subset _ _ _, fun i hi => by cases hi⟩
  have hunite := h
  cases h with
  | empruntNew resa => exact hpret _ resa
  | transformerEnEmprunt resa => exact hpret _ (some resa)
  | empruntEdit => cases hedit
  | _ => exact (harmless_unite_of_not_prete hunite rfl hedit g).addsOne _

/-! ### The tests -/

theorem passes_emprunts {p : EmpruntRow → Bool} {n : ℕ} {r : Requete} {s : Tables} :
    Passes (empruntsDe p) (fun _ => none) n r s ↔ s.emprunt.count p ≤ n := by
  unfold Passes empruntsDe
  rw [Table.card_keys_sdiff_toFinset]
  show s.emprunt.others 0 p ≤ n ↔ _
  rw [Table.others_zero]

/-- The handler of `r` adds a loan to those that `g` counts only after the test of `g`. -/
abbrev TesteEmprunt (g : RegleEmprunt) (r : Requete) (p : Handler) : Prop :=
  Tests (empruntsDe g.compte) (fun _ => none) g.limite r p

/-- `persistEntity` tests the book first, and the member next. -/
theorem teste_persistEntity (g : RegleEmprunt) (r : Requete) (e : Emprunt) (now : Instant) :
    TesteEmprunt g r (EmpruntCrudController.persistEntity e now) := by
  unfold EmpruntCrudController.persistEntity
  split
  · exact .done _
  next l hl =>
  rw [read_bind]
  refine .query fun s hs => ?_
  rw [passes_emprunts, not_le] at hs
  split
  · exact .done _
  next hlibre =>
  split
  · exact .done _
  next u hu =>
  rw [read_bind]
  refine .query fun s' hs' => ?_
  rw [passes_emprunts, not_le] at hs'
  split
  · exact .done _
  next hquota =>
  have hg : ¬ g.Concerne e := by
    intro hg
    cases g with
    | parUtilisateur u' =>
      obtain rfl : u = u' := Option.some.inj (hu.symm.trans hg)
      rw [compterEnCours_eq] at hquota
      exact hquota hs'
    | surLivre l' =>
      obtain rfl : l = l' := Option.some.inj (hl.symm.trans hg)
      rw [Bool.not_eq_true, getIsEmprunte_eq_false_iff] at hlibre
      exact absurd hlibre (Nat.ne_of_gt hs)
  refine .query fun s'' _ => .flush (RegleEmprunt.harmless_pret (fun h => hg ?_) _) fun b => .done _
  cases g with
  | parUtilisateur u' => exact h
  | surLivre l' => exact h

theorem teste_empruntNew (g : RegleEmprunt) (form : Emprunt) (now : Instant) :
    TesteEmprunt g (.empruntNew form now) (EmpruntCrudController.new form now) := by
  unfold EmpruntCrudController.new
  refine (readOnly_choixUtilisateur _).guarded_bind fun v =>
    (readOnly_choixLivre _).guarded_bind fun v' => ?_
  split
  · exact .done _
  · split
    · refine (readOnly_validate _).guarded_bind fun violations => ?_
      split
      · exact teste_persistEntity g _ _ now
      · exact .done _
    · exact .done _

/-- `EmpruntRulesValidator::validate` on the loan of a reservation, before a rest that does nothing
once a violation is reported. -/
theorem teste_validateEmprunt {g : RegleEmprunt} {r : Requete} {value : Emprunt}
    {resa : ReservationsRow} {now : Instant} {f : List Violation → Handler}
    (hvalue : value = ReservationsCrudController.empruntDe resa now)
    (hg : g.Concerne value) (hf : ∀ v, v ≠ [] → TesteEmprunt g r (f v)) :
    TesteEmprunt g r (EmpruntRulesValidator.validate value >>= f) := by
  subst hvalue
  refine .query fun s hs => .query fun s' hs' => hf _ ?_
  rw [passes_emprunts, not_le] at hs hs'
  cases g with
  | parUtilisateur u =>
    obtain rfl : resa.utilisateur = u := Option.some.inj hg
    have hlen : (s.emprunt.select fun e => e.utilisateur == resa.utilisateur && e.enCours &&
        e.id != (ReservationsCrudController.empruntDe resa now).id.getD 0).length ≥ 5 := by
      rw [Table.length_select]
      exact hs.trans_eq (Table.others_zero _ _).symm
    rw [if_pos hlen]
    exact List.cons_ne_nil _ _
  | surLivre l =>
    obtain rfl : resa.livre = l := Option.some.inj hg
    have hlen : (s'.emprunt.select fun e => e.livre == resa.livre && e.enCours &&
        e.id != (ReservationsCrudController.empruntDe resa now).id.getD 0).length > 0 := by
      rw [Table.length_select]
      exact hs'.trans_eq (Table.others_zero _ _).symm
    rw [if_pos hlen]
    simp

theorem teste_transformerEnEmprunt (g : RegleEmprunt) (entityId : ℕ) (now : Instant) :
    TesteEmprunt g (.transformerEnEmprunt entityId now)
      (ReservationsCrudController.transformerEnEmprunt entityId now) := by
  unfold ReservationsCrudController.transformerEnEmprunt
  rw [read_bind]
  refine .query fun s _ => ?_
  split
  · exact .done _
  next resa hresa =>
  by_cases hg : g.Concerne (ReservationsCrudController.empruntDe resa now)
  · refine teste_validateEmprunt rfl hg fun erreurs herreurs => ?_
    -- the first violation is shown
    cases erreurs with
    | cons => exact .done _
    | nil => exact absurd rfl herreurs
  · refine (readOnly_validate _).guarded_bind fun erreurs => ?_
    cases erreurs with
    | cons => exact .done _
    | nil => exact .flush (RegleEmprunt.harmless_pret hg (some resa)) fun b => .done _

/-- Every request but the page EDIT of a loan opens a loan only after the tests. -/
theorem teste_requete_emprunt (services : Services) (g : RegleEmprunt) (r : Requete)
    (hr : r.horsEdition = true) : TesteEmprunt g r (r.handler services) := by
  have hends := endsBy_requete services r
  cases r with
  | empruntNew form now => exact teste_empruntNew g form now
  | transformerEnEmprunt entityId now => exact teste_transformerEnEmprunt g entityId now
  | empruntEdit => cases hr
  | _ => exact hends.guarded fun ws _ h => harmless_unite_of_not_prete h rfl rfl g

/-- **Loans under overlapping requests.**  From tables that respect the limits, in every
interleaving of requests other than the page EDIT of a loan, with at most `k` of them under way at
once, a member has at most `4 + k` open loans and a book at most `k`. -/
theorem loans_within_overlap (services : Services) (k : ℕ) (hk : 0 < k) (s : Tables)
    (hs : EmpruntsBornes s) (es : List (Event Requete))
    (hedit : ∀ r, .arrive r ∈ es → r.horsEdition = true)
    (hes : Along (Config.step (Requete.handler services)) (AuPlus services k) (.idle s) es) :
    (∀ u, (run (Config.step (Requete.handler services)) (.idle s) es).store.enCoursUtilisateur u
        ≤ 4 + k) ∧
      ∀ l, (run (Config.step (Requete.handler services)) (.idle s) es).store.enCoursLivre l
        ≤ k := by
  have hregle : ∀ g : RegleEmprunt, s.emprunt.count g.compte ≤ g.limite + k →
      (run (Config.step (Requete.handler services)) (.idle s) es).store.emprunt.count g.compte
        ≤ g.limite + k := by
    intro g hg
    rw [← Table.card_keys] at hg ⊢
    change (empruntsDe g.compte s).card ≤ _ at hg
    exact card_cells_le hg es
      (fun r hr => teste_requete_emprunt services g r (hedit r hr))
      (fun r hr => (endsBy_requete services r).mono fun ws _ h =>
        addsOne_unite_emprunt h (hedit r hr) g) hes
  refine ⟨fun u => hregle (.parUtilisateur u) ?_, fun l => ?_⟩
  · have := hs.utilisateur u
    unfold Tables.enCoursUtilisateur at this
    show s.emprunt.count (parUtilisateur u) ≤ 4 + k
    omega
  · have := hs.livre l
    have := hregle (.surLivre l) (by
      unfold Tables.enCoursLivre at this
      show s.emprunt.count (surLivre l) ≤ 0 + k
      omega)
    rw [RegleEmprunt.limite, Nat.zero_add] at this
    exact this

/-- One book is lent to two members at once. -/
theorem loans_within_overlap_same_book :
    let es := [.arrive (.empruntNew (Exemple.pret 5 1) 0),
        .arrive (.empruntNew (Exemple.pret 6 1) 0)] ++
      (List.replicate 8 [.advance 0, .advance 1]).flatten
    let s' := (run (Config.step (Requete.handler Exemple.services))
      (.idle (Exemple.tables .empty .empty)) es).store
    s'.enCoursLivre 1 = 2 ∧ s'.enCoursLivre 1 ≤ 2 ∧ s'.enCoursUtilisateur 5 ≤ 4 + 2 := by
  have h := loans_within_overlap Exemple.services 2 (by decide) (Exemple.tables .empty .empty)
    (.of_rows_eq_nil rfl)
    ([.arrive (.empruntNew (Exemple.pret 5 1) 0), .arrive (.empruntNew (Exemple.pret 6 1) 0)] ++
      (List.replicate 8 [.advance 0, .advance 1]).flatten)
    (fun r hr => by
      simp only [List.mem_append, List.mem_cons, List.not_mem_nil, or_false,
        Event.arrive.injEq, List.mem_flatten, List.mem_replicate] at hr
      rcases hr with (rfl | rfl) | ⟨l, ⟨-, rfl⟩, hr⟩
      · rfl
      · rfl
      · simp at hr)
    (by decide)
  exact ⟨by decide, h.2 1, h.1 5⟩

end Biblio
