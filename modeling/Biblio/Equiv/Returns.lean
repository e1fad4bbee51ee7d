import Biblio.Equiv.OneFlush
import Biblio.Equiv.Statement
import Biblio.Store.Interleave

/-!
# Recorded returns and concurrent editions of a loan

The page EDIT of a loan is two requests: the form is shown with the values of the row, and later
submitted with the values the librarian left in it, which may be those shown.  Between the two, and
between the accesses of any of them, the action `rendreLivre` may record the return of the loan.

`retours` follows, over the journal of committed units of work, the return that `rendreLivre` has
recorded for each loan and that no librarian has since changed on purpose.  The stored date is that
one as long as two things do not happen (`RetourRespecte`): a `rendreLivre` that writes its date
over an earlier one, having read the loan before that was recorded; and a submission that does not
change the field, but loaded the row with another date than its form was shown with, and so writes
the shown date back.
-/

namespace Biblio

open Prog

/-- The requests of librarians on a loan: the form is shown, the form is submitted (with the values
it was shown with), a return is recorded. -/
inductive Pupitre where
  | afficher (entityId : ℕ)
  | soumettre (entityId : ℕ) (affiche : Emprunt) (form : Emprunt)
  | rendreLivre (entityId : ℕ) (now : Instant)
  deriving DecidableEq

/-- The handler of a request. -/
def Pupitre.handler : Pupitre → Handler
  | afficher entityId => EmpruntCrudController.editForm entityId
  | soumettre entityId _ form => EmpruntCrudController.edit entityId form
  | rendreLivre entityId now => EmpruntCrudController.rendreLivre entityId now

/-- The interleavings of such requests, with the journal of what they commit. -/
abbrev Bureau := Logged Tables Statement Reponse Pupitre

/-! ### The returns recorded -/

/-- The returns recorded for the loans. -/
abbrev Retours := ℕ → Option Datetime

/-- What a committed unit of work means for them: the first `rendreLivre` of a loan records its
date, a submission that changes the field is a decision of its own, one that does not changes
nothing. -/
def noter (ρ : Retours) : Pupitre × List Statement → Retours
  | (.rendreLivre id now, _) =>
    if ρ id = none then Function.update ρ id (some (toDatetime now)) else ρ
  | (.soumettre id affiche form, _) =>
    if form.dateRetour = affiche.dateRetour then ρ else Function.update ρ id none
  | (.afficher _, _) => ρ

/-- The returns recorded by `rendreLivre` and not changed on purpose since. -/
def retours (journal : List (Pupitre × List Statement)) : Retours :=
  journal.foldl noter fun _ => none

theorem retours_append (journal : List (Pupitre × List Statement))
    (x : Pupitre × List Statement) : retours (journal ++ [x]) = noter (retours journal) x := by
  rw [retours, List.foldl_append]
  rfl

/-- A unit of work about to be made respects the return recorded for its loan, `d`: a second
`rendreLivre` falls into the same second; a submission that leaves the field alone has loaded the
row with the date its form was shown with, or was shown `d`. -/
def FlushFidele (ρ : Retours) : Pupitre → List Statement → Prop
  | .rendreLivre id now, _ => ∀ d, ρ id = some d → toDatetime now = d
  | .soumettre id affiche form, ws => form.dateRetour = affiche.dateRetour →
      ∀ d, ρ id = some d → ∀ row v, .updateEmprunt id row v ∈ ws →
        row.dateRetour = affiche.dateRetour ∨ affiche.dateRetour = some d
  | .afficher _, _ => True

/-- The condition on an event of an interleaving. -/
def RetourRespecte (l : Bureau) : Event Pupitre → Prop
  | .arrive _ => True
  | .advance i => ∀ a ws k, l.config.procs[i]? = some (a, .flush ws k) →
      FlushFidele (retours l.journal) a ws

/-! ### The units of work -/

/-- The unit of work a request ends by. -/
inductive Pupitre.Ecrit : Pupitre → List Statement → (Bool → Reponse) → Prop
  | soumettre {entityId : ℕ} {affiche form : Emprunt} {row : EmpruntRow} {f : Bool → Reponse} :
      Ecrit (.soumettre entityId affiche form)
        [.updateEmprunt entityId row { form with id := some entityId }] f
  | rendreLivre {entityId : ℕ} {now : Instant} {row : EmpruntRow} {f : Bool → Reponse}
      (hid : row.id = entityId) (hopen : row.dateRetour = none) :
      Ecrit (.rendreLivre entityId now) [EmpruntCrudController.retour row now] f

theorem Pupitre.endsBy_handler (a : Pupitre) :
    a.handler.EndsBy (fun _ => True) a.Ecrit := by
  cases a with
  | afficher entityId =>
    show (EmpruntCrudController.editForm entityId).EndsBy _ _
    unfold EmpruntCrudController.editForm
    rw [read_bind]
    refine .query fun s => ?_
    split
    · exact .done trivial
    · exact .done trivial
  | soumettre entityId affiche form =>
    exact endsBy_edit (fun _ => trivial) fun row f => .soumettre
  | rendreLivre entityId now =>
    exact endsBy_rendreLivre (fun _ => trivial) fun row f hid hopen => .rendreLivre hid hopen

/-- An `UPDATE` of a loan, whatever has become of the row since it was read: it touches no other
loan, and sets the return date if that is a changed field of the entity. -/
theorem find_updateEmprunt {id : ℕ} {o : EmpruntRow} {v : Emprunt} {s s' : Tables}
    (h : exec (.updateEmprunt id o v) s = some s') :
    (∀ j, j ≠ id → s'.emprunt.find j = s.emprunt.find j) ∧
      ∃ g : EmpruntRow → EmpruntRow, s'.emprunt.find id = (s.emprunt.find id).map g ∧
        ∀ r, (g r).dateRetour = changed o.dateRetour v.dateRetour r.dateRetour := by
  simp only [exec] at h
  split at h
  · split_ifs at h
    obtain rfl := (Option.some.inj h).symm
    refine ⟨fun j hj => Table.find_update_of_ne _ _ hj, _, Table.find_update_self _ _ _, ?_⟩
    intro r
    rfl
  · cases h

/-! ### The invariant -/

/-- The stored dates are the recorded ones, and no loan there was at the start is gone. -/
structure RetoursGardes (s₀ s : Tables) (journal : List (Pupitre × List Statement)) : Prop where
  date : ∀ id d row, retours journal id = some d → s.emprunt.find id = some row →
    row.dateRetour = some d
  present : ∀ id, s₀.emprunt.find id ≠ none → s.emprunt.find id ≠ none

/-- Nothing is recorded before the first unit of work. -/
theorem retoursGardes_nil (s : Tables) : RetoursGardes s s [] where
  date _ d _ hd := absurd hd.symm (Option.some_ne_none d)
  present _ h := h

/-- An update of one loan keeps the dates if it keeps that loan's. -/
theorem RetoursGardes.of_update {s₀ s s' : Tables} {journal : List (Pupitre × List Statement)}
    (h : RetoursGardes s₀ s journal) {id : ℕ} {o : EmpruntRow} {v : Emprunt}
    (hexec : exec (.updateEmprunt id o v) s = some s') (x : Pupitre × List Statement)
    (hothers : ∀ j, j ≠ id → retours (journal ++ [x]) j = retours journal j)
    (hself : ∀ d r, retours (journal ++ [x]) id = some d → s.emprunt.find id = some r →
      changed o.dateRetour v.dateRetour r.dateRetour = some d) :
    RetoursGardes s₀ s' (journal ++ [x]) := by
  obtain ⟨hne, g, heq, hg⟩ := find_updateEmprunt hexec
  constructor
  · intro j d row hd hrow
    by_cases hj : j = id
    · subst hj
      rw [heq] at hrow
      obtain ⟨r, hr, rfl⟩ := Option.map_eq_some_iff.mp hrow
      rw [hg]
      exact hself d r hd hr
    · rw [hothers j hj] at hd
      rw [hne j hj] at hrow
      exact h.date j d row hd hrow
  · intro j hj
    have hold := h.present j hj
    by_cases hjd : j = id
    · subst hjd
      rw [heq]
      exact fun hnone => hold (Option.map_eq_none_iff.mp hnone)
    · rw [hne j hjd]
      exact hold

/-- A submission keeps the recorded returns, if it respects that of its loan. -/
theorem RetoursGardes.of_soumettre {s₀ s s' : Tables}
    {journal : List (Pupitre × List Statement)} (h : RetoursGardes s₀ s journal) {id : ℕ}
    {affiche form : Emprunt} {row : EmpruntRow}
    (hok : FlushFidele (retours journal) (.soumettre id affiche form)
      [.updateEmprunt id row { form with id := some id }])
    (hexec : exec (.updateEmprunt id row { form with id := some id }) s = some s') :
    RetoursGardes s₀ s' (journal ++ [(.soumettre id affiche form,
      [.updateEmprunt id row { form with id := some id }])]) := by
  refine h.of_update hexec _ (fun j hj => ?_) (fun d r hd hr => ?_)
  · rw [retours_append, noter]
    split_ifs
    · rfl
    · exact Function.update_of_ne hj _ _
  · rw [retours_append, noter] at hd
    split_ifs at hd with hsame
    · have hstored := h.date id d r hd hr
      rcases hok hsame d hd row _ (List.mem_singleton.mpr rfl) with hloaded | hshown
      · -- the field is not among the changed ones
        rw [changed, if_pos (hsame.trans hloaded.symm)]
        exact hstored
      · have hform : form.dateRetour = some d := hsame.trans hshown
        unfold changed
        split_ifs
        · exact hstored
        · exact hform
    · rw [Function.update_self] at hd
      cases hd

/-- A return keeps the recorded returns, if none is recorded for its loan yet, or in the same
second. -/
theorem RetoursGardes.of_rendreLivre {s₀ s s' : Tables}
    {journal : List (Pupitre × List Statement)} (h : RetoursGardes s₀ s journal) {now : Instant}
    {row : EmpruntRow} (hopen : row.dateRetour = none) {ws : List Statement}
    (hok : FlushFidele (retours journal) (.rendreLivre row.id now) ws)
    (hexec : exec (EmpruntCrudController.retour row now) s = some s') :
    RetoursGardes s₀ s' (journal ++ [(.rendreLivre row.id now, ws)]) := by
  have hset : ∀ r : EmpruntRow, changed row.dateRetour (some (toDatetime now)) r.dateRetour
      = some (toDatetime now) := fun r => by
    rw [changed, hopen, if_neg (Option.some_ne_none _)]
  refine h.of_update hexec _ (fun j hj => ?_) (fun d r hd hr => ?_)
  · rw [retours_append, noter]
    split_ifs
    · exact Function.update_of_ne hj _ _
    · rfl
  · rw [retours_append, noter] at hd
    show changed row.dateRetour (some (toDatetime now)) r.dateRetour = some d
    rw [hset r]
    split_ifs at hd with hnone
    · rw [Function.update_self] at hd
      exact hd
    · rw [hok d hd]

/-! ### Interleavings -/

/-- **One event.**  It keeps the recorded returns, if its unit of work respects them. -/
theorem retoursGardes_step (s₀ : Tables) {l : Bureau}
    (h : l.Holds (RetoursGardes s₀) (fun _ _ => True) Pupitre.Ecrit) (e : Event Pupitre)
    (hok : RetourRespecte l e) :
    (l.step Pupitre.handler e).Holds (RetoursGardes s₀) (fun _ _ => True) Pupitre.Ecrit := by
  refine h.step Pupitre.endsBy_handler e fun i a ws f s' he hi hws hc => ?_
  subst he
  have hfidele := hok a ws _ hi
  cases hws with
  | soumettre => exact h.inv.of_soumettre hfidele (commit_singleton hc)
  | rendreLivre hid hopen =>
    subst hid
    exact h.inv.of_rendreLivre hopen hfidele (commit_singleton hc)

/-- **Recorded returns.**  Along every interleaving of shown forms, submissions and returns whose
units of work respect the recorded returns, a loan's stored return date is the one `rendreLivre`
recorded for it, until a librarian changes the field on purpose; and no loan disappears. -/
theorem recorded_return_kept (s : Tables) (es : List (Event Pupitre))
    (hok : Along (Logged.step Pupitre.handler) RetourRespecte (Logged.idle s) es) :
    let l := run (Logged.step Pupitre.handler) (Logged.idle s) es
    (∀ id d row, retours l.journal id = some d → l.config.store.emprunt.find id = some row →
      row.dateRetour = some d) ∧
      ∀ id, s.emprunt.find id ≠ none → l.config.store.emprunt.find id ≠ none := by
  intro l
  have hidle : (Logged.idle s : Bureau).Holds (RetoursGardes s) (fun _ _ => True)
      Pupitre.Ecrit := ⟨retoursGardes_nil s, fun _ hap => absurd hap List.not_mem_nil⟩
  have hend : l.Holds (RetoursGardes s) (fun _ _ => True) Pupitre.Ecrit :=
    run_invariant (I := fun l : Bureau => l.Holds (RetoursGardes s) (fun _ _ => True)
      Pupitre.Ecrit) _ (fun _ e h he => retoursGardes_step s h e he) es _ hidle hok
  exact ⟨hend.inv.date, hend.inv.present⟩

/-- The small library with one open loan, of the book 1 by the member 5. -/
def Exemple.prete : Tables := Exemple.tables (Table.empty.insert ⟨0, 0, none, 5, 1⟩) .empty

/-- The form of that loan, returned at `d` or open. -/
def Exemple.formulaire (d : Option Datetime) : Emprunt := ⟨some 1, some 0, d, some 5, some 1⟩

/-- The return is recorded, then the form is shown and submitted unchanged. -/
theorem recorded_return_kept_fresh_form :
    let l := run (Logged.step Pupitre.handler) (Logged.idle Exemple.prete)
      [.arrive (.rendreLivre 1 5000000), .advance 0, .advance 0, .arrive (.afficher 1),
        .advance 1, .arrive (.soumettre 1 (Exemple.formulaire (some 5))
          (Exemple.formulaire (some 5))), .advance 2, .advance 2, .advance 2, .advance 2]
    (.afficher 1, .formulaireEmprunt (Exemple.formulaire (some 5))) ∈ l.config.answers ∧
      (.soumettre 1 (Exemple.formulaire (some 5)) (Exemple.formulaire (some 5)), .enregistre) ∈
        l.config.answers ∧
      retours l.journal 1 = some 5 ∧
      ∀ row, l.config.store.emprunt.find 1 = some row → row.dateRetour = some 5 := by
  intro l
  have hkept := recorded_return_kept Exemple.prete
    [.arrive (.rendreLivre 1 5000000), .advance 0, .advance 0, .arrive (.afficher 1),
      .advance 1, .arrive (.soumettre 1 (Exemple.formulaire (some 5))
        (Exemple.formulaire (some 5))), .advance 2, .advance 2, .advance 2, .advance 2] ?_
  · exact ⟨by decide, by decide, by decide, fun row => hkept.1 1 5 row (by decide)⟩
  refine ⟨trivial, ?_, ?_, trivial, ?_, trivial, ?_, ?_, ?_, ?_, trivial⟩
  · exact fun a ws k h => (not_flush_of_query h).elim
  · intro a ws k h
    obtain ⟨rfl, -⟩ := eq_of_flush h
    exact fun d hd => absurd hd (by decide +revert)
  · exact fun a ws k h => (not_flush_of_query h).elim
  · exact fun a ws k h => (not_flush_of_query h).elim
  · exact fun a ws k h => (not_flush_of_query h).elim
  · exact fun a ws k h => (not_flush_of_query h).elim
  · -- the submission has loaded the date it was shown
    intro a ws k h
    obtain ⟨rfl, -⟩ := eq_of_flush h
    intro _ d hd row v _
    right
    rw [← hd]
    decide

/-- The form is shown, the return is recorded, and the form is submitted unchanged: the return is
gone.  And of two returns at the same time, the second replaces the first. -/
theorem recorded_return_lost :
    (let l := run (Logged.step Pupitre.handler) (Logged.idle Exemple.prete)
      [.arrive (.afficher 1), .advance 0, .arrive (.rendreLivre 1 5000000), .advance 1,
        .advance 1, .arrive (.soumettre 1 (Exemple.formulaire none) (Exemple.formulaire none)),
        .advance 2, .advance 2, .advance 2, .advance 2, .advance 2, .advance 2]
    (.afficher 1, .formulaireEmprunt (Exemple.formulaire none)) ∈ l.config.answers ∧
      retours l.journal 1 = some 5 ∧
      l.config.store.emprunt.find 1 = some ⟨1, 0, none, 5, 1⟩) ∧
    (let l := run (Logged.step Pupitre.handler) (Logged.idle Exemple.prete)
      [.arrive (.rendreLivre 1 5000000), .arrive (.rendreLivre 1 9000000), .advance 0,
        .advance 1, .advance 0, .advance 1]
    retours l.journal 1 = some 5 ∧
      l.config.store.emprunt.find 1 = some ⟨1, 0, some 9, 5, 1⟩) := by
  constructor
  · intro l
    refine ⟨?_, ?_, ?_⟩
    all_goals decide
  · intro l
    refine ⟨?_, ?_⟩
    all_goals decide

end Biblio
