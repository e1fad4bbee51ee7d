import Biblio.Equiv.LoanRules
import Biblio.Equiv.OneFlush
import Biblio.Equiv.ReservationRules
import Biblio.Store.Interleave

/-!
# Concurrent requests at the desk

Conversions, new loans, returns and cancellations, interleaved: each reads the tables and ends by
one unit of work.  The journal of the committed units of work tells which reservation a loan was
made from (`convertit`).  Nothing makes a unit of work fail when what its request has read is no
longer there; where every unit of work still finds it (`FlushSain`: the reservation to convert, a
book without open loan, a reservation that has not been converted), a reservation becomes a loan at
most once, and never if its cancellation was confirmed, and no book has two open loans
(`desk_reservation_consumed_once`).
-/

namespace Biblio

open Prog

/-- A request at the desk, or a member's cancellation. -/
inductive Guichet where
  | transformerEnEmprunt (entityId : ℕ) (now : Instant)
  | empruntNew (form : Emprunt) (now : Instant)
  | rendreLivre (entityId : ℕ) (now : Instant)
  | annuler (user reservation : ℕ)
  deriving DecidableEq

/-- The handler of a request. -/
def Guichet.handler : Guichet → Handler
  | transformerEnEmprunt entityId now =>
    ReservationsCrudController.transformerEnEmprunt entityId now
  | empruntNew form now => EmpruntCrudController.new form now
  | rendreLivre entityId now => EmpruntCrudController.rendreLivre entityId now
  | annuler user reservation => ReservationsController.delete user reservation

/-- The interleavings of such requests, with the journal of what they commit. -/
abbrev Registre := Logged Tables Statement Reponse Guichet

/-- A committed unit of work makes a loan out of the reservation `r`. -/
def convertit (r : ℕ) (x : Guichet × List Statement) : Bool :=
  (x.2.any fun | .insertEmprunt _ => true | _ => false) && x.2.contains (.deleteReservations r)

/-- A unit of work about to be made still finds what its request relied on: the book it opens a
loan of has no open loan, the reservation it converts is there, the reservation it cancels has not
been converted. -/
structure FlushSain (l : Registre) (a : Guichet) (ws : List Statement) : Prop where
  libre : ∀ e livre, .insertEmprunt e ∈ ws → e.dateRetour = none → e.livre = some livre →
    l.config.store.enCoursLivre livre = 0
  present : ∀ r, convertit r (a, ws) = true → l.config.store.reservations.find r ≠ none
  nonConverti : ∀ u r, a = .annuler u r → ∀ x ∈ l.journal, convertit r x = false

/-- The condition on an event of an interleaving. -/
def SansConflit (l : Registre) : Event Guichet → Prop
  | .arrive _ => True
  | .advance i => ∀ a ws k, l.config.procs[i]? = some (a, .flush ws k) → FlushSain l a ws

/-! ### The units of work -/

/-- The answers of a cancellation. -/
def reponseAnnuler (committed : Bool) : Reponse :=
  if committed then .json 200 "Réservation annulée." else apresFlush false

/-- The unit of work a request ends by. -/
inductive Guichet.Ecrit : Guichet → List Statement → (Bool → Reponse) → Prop
  | transformerEnEmprunt {entityId : ℕ} {now : Instant} {e : Emprunt}
      {resa : Option ReservationsRow} {f : Bool → Reponse} :
      Ecrit (.transformerEnEmprunt entityId now) (EmpruntCrudController.persistStatements e resa) f
  | empruntNew {form : Emprunt} {now : Instant} {e : Emprunt} {resa : Option ReservationsRow}
      {f : Bool → Reponse} :
      Ecrit (.empruntNew form now) (EmpruntCrudController.persistStatements e resa) f
  | rendreLivre {entityId : ℕ} {now : Instant} {row : EmpruntRow} {f : Bool → Reponse}
      (hopen : row.dateRetour = none) :
      Ecrit (.rendreLivre entityId now) [EmpruntCrudController.retour row now] f
  | annuler {u r : ℕ} : Ecrit (.annuler u r) [.deleteReservations r] reponseAnnuler

/-- The answers a request gives without a unit of work: a cancellation does not answer 200. -/
def Guichet.Refus : Guichet → Reponse → Prop
  | .annuler _ _, rep => ∀ m, rep ≠ .json 200 m
  | _, _ => True

theorem endsBy_transformerEnEmprunt (entityId : ℕ) (now : Instant) :
    (ReservationsCrudController.transformerEnEmprunt entityId now).EndsBy
      (Guichet.Refus (.transformerEnEmprunt entityId now))
      (Guichet.Ecrit (.transformerEnEmprunt entityId now)) := by
  unfold ReservationsCrudController.transformerEnEmprunt
  rw [read_bind]
  refine .query fun s => ?_
  split
  · exact .done trivial
  · next resa hresa =>
    refine (readOnly_validate _).bind fun erreurs => ?_
    cases erreurs with
    | cons => exact .done trivial
    | nil => exact .flush (@Guichet.Ecrit.transformerEnEmprunt entityId now _ (some resa) _)

theorem endsBy_empruntNew (form : Emprunt) (now : Instant) :
    (EmpruntCrudController.new form now).EndsBy (Guichet.Refus (.empruntNew form now))
      (Guichet.Ecrit (.empruntNew form now)) := by
  unfold EmpruntCrudController.new
  refine (readOnly_choixUtilisateur _).bind fun v => (readOnly_choixLivre _).bind fun v' => ?_
  split
  · exact .done trivial
  split
  · refine (readOnly_validate _).bind fun violations => ?_
    split
    · -- `persistEntity` reads the loans of the book, of the member, and the reservation
      unfold EmpruntCrudController.persistEntity
      split
      · exact .done trivial
      rw [read_bind]
      refine .query fun s => ?_
      split
      · exact .done trivial
      split
      · exact .done trivial
      rw [read_bind]
      refine .query fun s => ?_
      split
      · exact .done trivial
      · exact .query fun s => .flush .empruntNew
    · exact .done trivial
  · exact .done trivial

theorem endsBy_annuler (u r : ℕ) :
    (ReservationsController.delete u r).EndsBy (Guichet.Refus (.annuler u r))
      (Guichet.Ecrit (.annuler u r)) := by
  unfold ReservationsController.delete ReservationsController.resoudreReservation
  rw [read_bind]
  refine .query fun s => ?_
  split
  · exact .done nofun
  rw [read_bind]
  refine .query fun s => ?_
  split
  · exact .done nofun
  split
  · exact .done nofun
  · exact .flush .annuler

/-- A request reads, and then refuses or ends by its unit of work. -/
theorem endsBy_handler (a : Guichet) : a.handler.EndsBy a.Refus a.Ecrit := by
  cases a with
  | transformerEnEmprunt entityId now => exact endsBy_transformerEnEmprunt entityId now
  | empruntNew form now => exact endsBy_empruntNew form now
  | rendreLivre entityId now =>
    exact endsBy_rendreLivre (fun _ => trivial) fun _ _ _ hopen => .rendreLivre hopen
  | annuler u r => exact endsBy_annuler u r

/-! ### What a committed unit of work does -/

theorem convertit_persistStatements (r : ℕ) (a : Guichet) (e : Emprunt)
    (resa : Option ReservationsRow) :
    convertit r (a, EmpruntCrudController.persistStatements e resa) = true ↔
      resa.map ReservationsRow.id = some r := by
  cases resa with
  | none => simp [convertit, EmpruntCrudController.persistStatements]
  | some x => simp [convertit, EmpruntCrudController.persistStatements, eq_comm]

/-- What the journal says of the tables. -/
structure RegistreSain (s : Tables) (journal : List (Guichet × List Statement)) : Prop where
  /-- A reservation is converted at most once. -/
  unique : ∀ r, journal.countP (convertit r) ≤ 1
  /-- A converted reservation is gone. -/
  parti : ∀ r, ∀ x ∈ journal, convertit r x = true → s.reservations.find r = none
  /-- So is a cancelled one, and it was not converted. -/
  annule : ∀ u r ws, (.annuler u r, ws) ∈ journal →
    s.reservations.find r = none ∧ ∀ x ∈ journal, convertit r x = false
  /-- No book has two open loans. -/
  livre : ∀ l, s.enCoursLivre l ≤ 1

/-- A return closes the loan, whatever has become of it since it was read. -/
theorem enCoursLivre_retour_le {row : EmpruntRow} {now : Instant} {s s' : Tables}
    (hopen : row.dateRetour = none)
    (h : exec (EmpruntCrudController.retour row now) s = some s') (l : ℕ) :
    s'.enCoursLivre l ≤ s.enCoursLivre l := by
  simp only [EmpruntCrudController.retour, EmpruntRow.toEntity, exec] at h
  split_ifs at h
  obtain rfl := (Option.some.inj h).symm
  unfold Tables.enCoursLivre
  rw [Table.count_update, Table.count_eq_others s.emprunt row.id, Table.here]
  cases s.emprunt.find row.id with
  | none => exact Nat.le_refl _
  | some r =>
    -- the row gets a return date
    have hclosed : changed row.dateRetour (some (toDatetime now)) r.dateRetour
        = some (toDatetime now) := by
      rw [changed, hopen, if_neg (Option.some_ne_none _)]
    simp [surLivre, EmpruntRow.enCours, hclosed, Keyed.withKey]

/-- A unit of work that leaves the reservations alone and opens no loan. -/
theorem RegistreSain.of_retour {s s' : Tables} {journal : List (Guichet × List Statement)}
    (h : RegistreSain s journal) {x : Guichet × List Statement} (hx : ∀ r, convertit r x = false)
    (hlabel : ∀ u r, x.1 ≠ .annuler u r) (hres : s'.reservations = s.reservations)
    (hlivre : ∀ l, s'.enCoursLivre l ≤ s.enCoursLivre l) : RegistreSain s' (journal ++ [x]) where
  unique r := by
    rw [List.countP_append, List.countP_singleton, hx r]
    exact h.unique r
  parti r y hy hconv := by
    rw [hres]
    rcases List.mem_append.mp hy with hy | hy
    · exact h.parti r y hy hconv
    · rw [List.mem_singleton.mp hy, hx r] at hconv
      cases hconv
  annule u r ws hmem := by
    rw [hres]
    rcases List.mem_append.mp hmem with hmem | hmem
    · obtain ⟨hnone, hfree⟩ := h.annule u r ws hmem
      refine ⟨hnone, fun y hy => ?_⟩
      rcases List.mem_append.mp hy with hy | hy
      · exact hfree y hy
      · rw [List.mem_singleton.mp hy]
        exact hx r
    · exact absurd (congrArg Prod.fst (List.mem_singleton.mp hmem)).symm (hlabel u r)
  livre l := Nat.le_trans (hlivre l) (h.livre l)

/-- A cancellation of a reservation that has not been converted. -/
theorem RegistreSain.of_annuler {s : Tables} {journal : List (Guichet × List Statement)}
    (h : RegistreSain s journal) {u r : ℕ} (hfree : ∀ x ∈ journal, convertit r x = false) :
    RegistreSain { s with reservations := s.reservations.delete r }
      (journal ++ [(.annuler u r, [.deleteReservations r])]) := by
  have hx : ∀ r', convertit r' (.annuler u r, [.deleteReservations r]) = false := fun r' => rfl
  refine ⟨fun r' => ?_, fun r' y hy hconv => ?_, fun u' r' ws hmem => ?_, h.livre⟩
  · rw [List.countP_append, List.countP_singleton, hx r']
    exact h.unique r'
  · rcases List.mem_append.mp hy with hy | hy
    · exact Table.find_delete_eq_none (h.parti r' y hy hconv) r
    · rw [List.mem_singleton.mp hy, hx r'] at hconv
      cases hconv
  · -- a cancelled reservation: this one, or one cancelled before
    obtain ⟨hnone, hfree'⟩ : (s.reservations.delete r).find r' = none ∧
        ∀ x ∈ journal, convertit r' x = false := by
      rcases List.mem_append.mp hmem with hmem | hmem
      · obtain ⟨hnone, hfree'⟩ := h.annule u' r' ws hmem
        exact ⟨Table.find_delete_eq_none hnone r, hfree'⟩
      · obtain ⟨heq, -⟩ := Prod.mk.inj (List.mem_singleton.mp hmem)
        obtain ⟨-, rfl⟩ := Guichet.annuler.inj heq
        exact ⟨Table.find_delete_self _ _, hfree⟩
    refine ⟨hnone, fun y hy => ?_⟩
    rcases List.mem_append.mp hy with hy | hy
    · exact hfree' y hy
    · rw [List.mem_singleton.mp hy]
      exact hx r'

theorem find_sansResa_eq_none {s : Tables} {r : ℕ} (h : s.reservations.find r = none)
    (resa : Option ReservationsRow) : (sansResa s resa).find r = none := by
  cases resa with
  | none => exact h
  | some x => exact Table.find_delete_eq_none h x.id

/-- A conversion, or a loan without reservation: the reservation is there, the book has no open
loan. -/
theorem RegistreSain.of_pret {s s' : Tables} {journal : List (Guichet × List Statement)}
    (h : RegistreSain s journal) {a : Guichet} (hlabel : ∀ u r, a ≠ .annuler u r) {e : Emprunt}
    {resa : Option ReservationsRow}
    (hlibre : ∀ livre, e.dateRetour = none → e.livre = some livre → s.enCoursLivre livre = 0)
    (hpresent : ∀ r, resa.map ReservationsRow.id = some r → s.reservations.find r ≠ none)
    (hc : commit (EmpruntCrudController.persistStatements e resa) s = some s') :
    RegistreSain s' (journal ++ [(a, EmpruntCrudController.persistStatements e resa)]) := by
  obtain ⟨row, hrow, rfl⟩ := commit_persistStatements hc
  -- a reservation converted now was there, so it was not converted before
  have hfirst : ∀ r, resa.map ReservationsRow.id = some r → ∀ x ∈ journal,
      convertit r x = false := fun r hr x hx => by
    rw [← Bool.not_eq_true]
    exact fun hconv => hpresent r hr (h.parti r x hx hconv)
  refine ⟨fun r => ?_, fun r y hy hconv => ?_, fun u r ws hmem => ?_, fun l => ?_⟩
  · rw [List.countP_append, List.countP_singleton]
    split_ifs with hconv
    · -- the first conversion of this reservation
      rw [convertit_persistStatements] at hconv
      have hzero : journal.countP (convertit r) = 0 := by
        rw [List.countP_eq_zero]
        intro x hx
        rw [hfirst r hconv x hx]
        exact Bool.false_ne_true
      omega
    · exact h.unique r
  · rcases List.mem_append.mp hy with hy | hy
    · exact find_sansResa_eq_none (h.parti r y hy hconv) resa
    · rw [List.mem_singleton.mp hy, convertit_persistStatements] at hconv
      obtain ⟨x, rfl, rfl⟩ := Option.map_eq_some_iff.mp hconv
      exact Table.find_delete_self _ _
  · rcases List.mem_append.mp hmem with hmem | hmem
    · obtain ⟨hnone, hfree⟩ := h.annule u r ws hmem
      refine ⟨find_sansResa_eq_none hnone resa, fun y hy => ?_⟩
      rcases List.mem_append.mp hy with hy | hy
      · exact hfree y hy
      · rw [List.mem_singleton.mp hy, ← Bool.not_eq_true, convertit_persistStatements]
        exact fun hconv => hpresent r hconv hnone
    · exact absurd (congrArg Prod.fst (List.mem_singleton.mp hmem)).symm (hlabel u r)
  · show (s.emprunt.insert row).count (surLivre l) ≤ 1
    rw [Table.count_insert]
    cases hl : surLivre l (Keyed.withKey s.emprunt.next row) with
    | false => exact h.livre l
    | true =>
      -- the loan is open and of the book `l`, which had none
      simp only [surLivre, EmpruntRow.enCours, Bool.and_eq_true, beq_iff_eq,
        Option.isNone_iff_eq_none] at hl
      have hlivre : row.livre = l := hl.1
      subst hlivre
      have hzero := hlibre row.livre (hrow.dateRetour.trans hl.2) hrow.livre
      unfold Tables.enCoursLivre at hzero
      rw [hzero]
      exact Nat.le_refl _

/-! ### Interleavings -/

/-- **One event.**  It keeps what the journal says, if its unit of work still finds what it relied
on. -/
theorem holds_step {l : Registre} (h : l.Holds RegistreSain Guichet.Refus Guichet.Ecrit)
    (e : Event Guichet) (hok : SansConflit l e) :
    (l.step Guichet.handler e).Holds RegistreSain Guichet.Refus Guichet.Ecrit := by
  refine h.step endsBy_handler e fun i a ws f s' he hi hws hc => ?_
  subst he
  have hsain := hok a ws _ hi
  cases hws with
  | transformerEnEmprunt | empruntNew =>
    -- both make a loan and delete the reservation found with it
    refine h.inv.of_pret (fun u r heq => ?_) (fun livre hd hl => ?_) (fun r hr => ?_) hc
    · cases heq
    · exact hsain.libre _ livre (List.mem_cons_self ..) hd hl
    · exact hsain.present r ((convertit_persistStatements r _ _ _).mpr hr)
  | rendreLivre hopen =>
    have hexec := commit_singleton hc
    exact h.inv.of_retour (fun r => rfl) nofun
      ((exec_frame hexec).reservations Relation.noConfusion) (enCoursLivre_retour_le hopen hexec)
  | annuler =>
    obtain rfl := Option.some.inj (commit_singleton hc)
    exact h.inv.of_annuler (hsain.nonConverti _ _ rfl)

/-- **At the desk.**  From tables that respect the loan rules, along every interleaving in which
each unit of work still finds what its request relied on: each reservation is made into a loan at
most once, a reservation whose cancellation was answered with 200 is made into none, and no book
has two open loans.  The condition is enough and not necessary: a unit of work that the database
refuses does no harm, whatever it finds. -/
theorem desk_reservation_consumed_once (s : Tables) (hs : EmpruntsBornes s)
    (es : List (Event Guichet))
    (hok : Along (Logged.step Guichet.handler) SansConflit (Logged.idle s) es) :
    let l := run (Logged.step Guichet.handler) (Logged.idle s) es
    (∀ r, l.journal.countP (convertit r) ≤ 1) ∧
      (∀ u r m, (.annuler u r, .json 200 m) ∈ l.config.answers →
        l.journal.countP (convertit r) = 0) ∧
      ∀ livre, l.config.store.enCoursLivre livre ≤ 1 := by
  intro l
  have hidle : (Logged.idle s : Registre).Holds RegistreSain Guichet.Refus Guichet.Ecrit :=
    ⟨⟨fun _ => Nat.zero_le _, nofun, nofun, hs.livre⟩, nofun⟩
  have hend : l.Holds RegistreSain Guichet.Refus Guichet.Ecrit :=
    run_invariant (I := fun l : Registre => l.Holds RegistreSain Guichet.Refus Guichet.Ecrit) _
      (fun _ e h he => holds_step h e he) es _ hidle hok
  refine ⟨hend.inv.unique, fun u r m hanswer => ?_, hend.inv.livre⟩
  obtain ⟨⟨a, p⟩, hproc, hans⟩ := List.mem_filterMap.mp hanswer
  obtain ⟨rep, rfl⟩ : ∃ rep, p = .done rep := by
    cases p with
    | done rep => exact ⟨rep, rfl⟩
    | query k => cases hans
    | flush ws k => cases hans
  obtain ⟨rfl, rfl⟩ := Prod.mk.inj (Option.some.inj hans)
  -- the answer 200 comes from a committed cancellation, which is in the journal
  rw [List.countP_eq_zero]
  have hannule : ∃ ws, (Guichet.annuler u r, ws) ∈ l.journal := by
    rcases hend.procs _ hproc with hends | ⟨ws, f, hws, hdone | ⟨-, hmem⟩⟩
    · cases hends with
      | done hrefus => exact absurd rfl (hrefus m)
    · cases hws
      exact absurd (Prog.done.inj hdone) (by simp [reponseAnnuler, apresFlush])
    · exact ⟨ws, hmem⟩
  obtain ⟨ws, hmem⟩ := hannule
  intro x hx
  rw [(hend.inv.annule u r ws hmem).2 x hx]
  exact Bool.false_ne_true

/-- The small library with one reservation, of the book 1 by the member 5. -/
def Exemple.reserve : Tables := Exemple.tables .empty (Table.empty.insert ⟨0, 0, 5, 1⟩)

/-- A reservation is converted while its member is cancelling it: he is too late. -/
theorem desk_conversion_then_cancellation :
    let l := run (Logged.step Guichet.handler) (Logged.idle Exemple.reserve)
      [.arrive (.transformerEnEmprunt 1 0), .arrive (.annuler 5 1), .advance 0, .advance 1,
        .advance 0, .advance 0, .advance 0, .advance 1]
    l.config.answers = [(.transformerEnEmprunt 1 0,
          .flash "success" "La réservation a bien été transformée en emprunt actif."),
        (.annuler 5 1, .exception 404 "Not Found")] ∧
      (∀ r, l.journal.countP (convertit r) ≤ 1) ∧ l.config.store.enCoursLivre 1 ≤ 1 := by
  intro l
  have hbornes : EmpruntsBornes Exemple.reserve := .of_rows_eq_nil rfl
  have hok := desk_reservation_consumed_once Exemple.reserve hbornes
    [.arrive (.transformerEnEmprunt 1 0), .arrive (.annuler 5 1), .advance 0, .advance 1,
      .advance 0, .advance 0, .advance 0, .advance 1] ?_
  · exact ⟨by decide, hok.1, hok.2.2 1⟩
  refine ⟨trivial, trivial, ?_, ?_, ?_, ?_, ?_, ?_, trivial⟩
  · exact fun a ws k h => (not_flush_of_query h).elim
  · exact fun a ws k h => (not_flush_of_query h).elim
  · exact fun a ws k h => (not_flush_of_query h).elim
  · exact fun a ws k h => (not_flush_of_query h).elim
  · -- the conversion is committed: the reservation is there, the book is free
    intro a ws k h
    obtain ⟨rfl, hws⟩ := eq_of_flush h
    obtain rfl : ReservationsCrudController.transformation ⟨1, 0, 5, 1⟩ 0 = ws := hws
    refine ⟨fun e livre _ _ _ => rfl, fun r hr => ?_, nofun⟩
    obtain rfl : 1 = r := Option.some.inj ((convertit_persistStatements r _
      (ReservationsCrudController.empruntDe ⟨1, 0, 5, 1⟩ 0) (some ⟨1, 0, 5, 1⟩)).mp hr)
    decide
  · exact fun a ws k h => (not_flush_of_query h).elim

/-- Two librarians convert the same reservation at the same time. -/
theorem desk_reservation_consumed_twice :
    let l := run (Logged.step Guichet.handler) (Logged.idle Exemple.reserve)
      [.arrive (.transformerEnEmprunt 1 0), .arrive (.transformerEnEmprunt 1 0), .advance 0,
        .advance 0, .advance 0, .advance 1, .advance 1, .advance 1, .advance 0, .advance 1]
    EmpruntsBornes Exemple.reserve ∧ ResasBornees Exemple.reserve ∧
      l.journal.countP (convertit 1) = 2 ∧ l.config.store.enCoursLivre 1 = 2 := by
  refine ⟨.of_rows_eq_nil rfl, ⟨fun l => ?_, fun u => ?_⟩, by decide, by decide⟩
  · exact List.countP_le_length
  · exact Nat.le_trans List.countP_le_length (by decide)

end Biblio
