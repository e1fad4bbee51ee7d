import Biblio.Equiv.ReservationRules
import Biblio.Store.Interleave

/-!
# Concurrent calls of the reservations API

`ReservationsController::create` reads three tables before it writes, and `delete` two, with
nothing to hold what was read until the write.  An interleaving of such calls is serializable if
every call, at the access that decides its answer, would still pass the rules it has already
checked (`ToujoursValable`): then the deciding access does what the whole call would do at that
moment on its own, and the calls are serialized in the order of their deciding accesses.

`Etape` says at which access a call stands and what of its earlier reads cannot have changed: no
call writes `livre`, `utilisateur` or `emprunt`, and a reservation is never changed, only removed.
-/

namespace Biblio

open Prog ReservationsController

/-- A call of the reservations API, by an account. -/
inductive Appel where
  | create (user livre : ℕ) (now : Instant)
  | delete (user reservation : ℕ)
  deriving DecidableEq

/-- The handler of a call. -/
def Appel.handler : Appel → Handler
  | create user livre now => ReservationsController.create user livre now
  | delete user reservation => ReservationsController.delete user reservation

/-- The rules a call has checked before the access at which it stands are still respected when
that access decides its answer. -/
def ToujoursValable (s : Tables) : Appel → Handler → Prop
  | .create user livre now, p =>
    (p = regleReserve user livre now → s.resasLivre livre ≠ 0 → s.resasUtilisateur user < 3) ∧
    (p = regleEmprunt user livre now → s.enCoursLivre livre ≠ 0 →
      s.resasUtilisateur user < 3 ∧ s.resasLivre livre = 0) ∧
    (p = enregistrer user livre now → s.resasUtilisateur user < 3 ∧ s.resasLivre livre = 0)
  | .delete _ reservation, p => p = annuler reservation → s.reservations.find reservation ≠ none

/-- The condition on an event of an interleaving. -/
def SansReleveePerimee (c : Config Tables Statement Reponse Appel) : Event Appel → Prop
  | .arrive _ => True
  | .advance i => ∀ a p, c.procs[i]? = some (a, p) → ToujoursValable c.store a p

/-! ### What the calls do to the tables -/

/-- A change by calls of the API: reservations come, under fresh ids, and go. -/
structure Evolue (s s' : Tables) : Prop where
  livre : s'.livre = s.livre
  utilisateur : s'.utilisateur = s.utilisateur
  emprunt : s'.emprunt = s.emprunt
  next : s.reservations.next ≤ s'.reservations.next
  resa : ∀ k r, k < s.reservations.next → s'.reservations.find k = some r →
    s.reservations.find k = some r

theorem Evolue.refl (s : Tables) : Evolue s s where
  livre := rfl
  utilisateur := rfl
  emprunt := rfl
  next := Nat.le_refl _
  resa := fun _ _ _ h => h

theorem evolue_insert {v : Reservations} {s s' : Tables}
    (h : exec (.insertReservations v) s = some s') : Evolue s s' := by
  obtain ⟨row, -, rfl⟩ := exec_insertReservations h
  refine ⟨rfl, rfl, rfl, Nat.le_succ _, fun k r hk hr => ?_⟩
  rw [← Table.find_insert_of_ne _ row (Nat.ne_of_lt hk)]
  exact hr

theorem evolue_delete (s : Tables) (k : ℕ) :
    Evolue s { s with reservations := s.reservations.delete k } := by
  refine ⟨rfl, rfl, rfl, Nat.le_refl _, fun j r _ hr => ?_⟩
  obtain ⟨hmem, hkey⟩ := (Table.find_eq_some_iff _ _ _).mp hr
  exact (Table.find_eq_some_iff _ _ _).mpr ⟨(Table.mem_delete.mp hmem).1, hkey⟩

/-! ### The stages of a call -/

/-- Where a call stands: at which access, and what it has found that still holds. -/
inductive Etape (s : Tables) : Appel → Handler → Prop
  | debutCreate {u l : ℕ} {now : Instant} :
      Etape s (.create u l now) (ReservationsController.create u l now)
  | resoudreLivre {u l : ℕ} {now : Instant} (hu : s.utilisateur.find u ≠ none) :
      Etape s (.create u l now) (resoudreLivre u l now)
  | regleQuota {u l : ℕ} {now : Instant} (hu : s.utilisateur.find u ≠ none)
      (hl : s.livre.find l ≠ none) : Etape s (.create u l now) (regleQuota u l now)
  | regleReserve {u l : ℕ} {now : Instant} (hu : s.utilisateur.find u ≠ none)
      (hl : s.livre.find l ≠ none) : Etape s (.create u l now) (regleReserve u l now)
  | regleEmprunt {u l : ℕ} {now : Instant} (hu : s.utilisateur.find u ≠ none)
      (hl : s.livre.find l ≠ none) : Etape s (.create u l now) (regleEmprunt u l now)
  | enregistrer {u l : ℕ} {now : Instant} (hu : s.utilisateur.find u ≠ none)
      (hl : s.livre.find l ≠ none) (hlibre : s.enCoursLivre l = 0) :
      Etape s (.create u l now) (enregistrer u l now)
  | debutDelete {u k : ℕ} : Etape s (.delete u k) (ReservationsController.delete u k)
  | resoudreReservation {u k : ℕ} (hu : s.utilisateur.find u ≠ none) :
      Etape s (.delete u k) (resoudreReservation u k)
  | annuler {u k : ℕ} (hu : s.utilisateur.find u ≠ none) (hk : k < s.reservations.next)
      (hown : ∀ r, s.reservations.find k = some r → r.utilisateur = u) :
      Etape s (.delete u k) (annuler k)
  | fini {a : Appel} {r : Reponse} : Etape s a (.done r)

theorem etape_handler (s : Tables) (a : Appel) : Etape s a a.handler := by
  cases a with
  | create u l now => exact .debutCreate
  | delete u k => exact .debutDelete

/-- The other calls do not take back what a call has found. -/
theorem Etape.evolue {s s' : Tables} {a : Appel} {p : Handler} (hev : Evolue s s')
    (h : Etape s a p) : Etape s' a p := by
  have hlibre : ∀ l, s'.enCoursLivre l = s.enCoursLivre l := fun l => by
    unfold Tables.enCoursLivre
    rw [hev.emprunt]
  cases h with
  | debutCreate => exact .debutCreate
  | resoudreLivre hu => exact .resoudreLivre (hev.utilisateur ▸ hu)
  | regleQuota hu hl => exact .regleQuota (hev.utilisateur ▸ hu) (hev.livre ▸ hl)
  | regleReserve hu hl => exact .regleReserve (hev.utilisateur ▸ hu) (hev.livre ▸ hl)
  | regleEmprunt hu hl => exact .regleEmprunt (hev.utilisateur ▸ hu) (hev.livre ▸ hl)
  | enregistrer hu hl hemp =>
    exact .enregistrer (hev.utilisateur ▸ hu) (hev.livre ▸ hl) ((hlibre _).trans hemp)
  | debutDelete => exact .debutDelete
  | resoudreReservation hu => exact .resoudreReservation (hev.utilisateur ▸ hu)
  | annuler hu hk hown =>
    -- ids are not given twice, so a reservation under this id is still the one read
    exact .annuler (hev.utilisateur ▸ hu) (Nat.lt_of_lt_of_le hk hev.next)
      fun r hr => hown r (hev.resa _ _ hk hr)
  | fini => exact .fini

/-! ### Passing a rule -/

section alone

variable (s : Tables) (u l k : ℕ) (now : Instant)

theorem alone_create (hu : s.utilisateur.find u ≠ none) :
    (ReservationsController.create u l now).alone s = (resoudreLivre u l now).alone s := by
  obtain ⟨row, hrow⟩ := Option.ne_none_iff_exists'.mp hu
  simp only [ReservationsController.create, read_bind, alone_query, hrow]

theorem alone_resoudreLivre (hl : s.livre.find l ≠ none) :
    (resoudreLivre u l now).alone s = (regleQuota u l now).alone s := by
  obtain ⟨row, hrow⟩ := Option.ne_none_iff_exists'.mp hl
  simp only [resoudreLivre, read_bind, alone_query, hrow]

theorem alone_regleQuota (hquota : s.resasUtilisateur u < 3) :
    (regleQuota u l now).alone s = (regleReserve u l now).alone s := by
  rw [regleQuota, read_bind, alone_query, if_neg]
  rw [length_resas]
  omega

theorem alone_regleReserve (hresa : s.resasLivre l = 0) :
    (regleReserve u l now).alone s = (regleEmprunt u l now).alone s := by
  rw [regleReserve, read_bind, alone_query, if_neg]
  rw [(find_resa_isSome s l).mpr hresa]
  exact Bool.false_ne_true

theorem alone_regleEmprunt (hlibre : s.enCoursLivre l = 0) :
    (regleEmprunt u l now).alone s = (enregistrer u l now).alone s := by
  rw [regleEmprunt, read_bind, alone_query, if_neg]
  rw [(find_enCours_isSome s l).mpr hlibre]
  exact Bool.false_ne_true

theorem alone_delete (hu : s.utilisateur.find u ≠ none) :
    (ReservationsController.delete u k).alone s = (resoudreReservation u k).alone s := by
  obtain ⟨row, hrow⟩ := Option.ne_none_iff_exists'.mp hu
  simp only [ReservationsController.delete, read_bind, alone_query, hrow]

theorem alone_resoudreReservation {resa : ReservationsRow}
    (hresa : s.reservations.find k = some resa) (hown : resa.utilisateur = u) :
    (resoudreReservation u k).alone s = (annuler k).alone s := by
  simp only [resoudreReservation, read_bind, alone_query, hresa]
  rw [if_neg (not_not.mpr hown)]

end alone

/-! ### One access -/

theorem step_regleReserve_ne_done {s : Tables} {u l : ℕ} {now : Instant}
    (hresa : s.resasLivre l = 0) (r : Reponse) : ((regleReserve u l now).step s).2 ≠ .done r := by
  rw [regleReserve, read_bind, step_query, if_neg]
  · intro h
    cases h
  · rw [(find_resa_isSome s l).mpr hresa]
    exact Bool.false_ne_true

theorem step_regleEmprunt_ne_done {s : Tables} {u l : ℕ} {now : Instant}
    (hlibre : s.enCoursLivre l = 0) (r : Reponse) :
    ((regleEmprunt u l now).step s).2 ≠ .done r := by
  rw [regleEmprunt, read_bind, step_query, if_neg]
  · intro h
    cases h
  · rw [(find_enCours_isSome s l).mpr hlibre]
    exact Bool.false_ne_true

/-- A last unit of work decides the answer. -/
theorem step_flush_done {σ τ ρ : Type} [Database σ τ] (ws : List τ) (f : Bool → ρ) (s : σ) :
    ∃ r, ((flush ws fun b => done (f b) : Prog σ τ ρ).step s).2 = .done r := by
  cases h : commit ws s with
  | some s' => exact ⟨f true, by rw [step_flush_some h]⟩
  | none => exact ⟨f false, by rw [step_flush_none h]⟩

/-- **Deciding access.**  If the access decides the answer, and what was checked before is still
respected, the whole call would go the same way now. -/
theorem Etape.alone_eq {s : Tables} {a : Appel} {p : Handler} (h : Etape s a p)
    (hok : ToujoursValable s a p) (hp : ∀ r, p ≠ .done r) {r : Reponse}
    (hr : (p.step s).2 = .done r) : a.handler.alone s = p.alone s := by
  cases h with
  | debutCreate | debutDelete => rfl
  | resoudreLivre hu => exact alone_create s _ _ _ hu
  | regleQuota hu hl => exact (alone_create s _ _ _ hu).trans (alone_resoudreLivre s _ _ _ hl)
  | regleReserve hu hl =>
    -- it decides only by a refusal: the book is reserved
    have hresa : s.resasLivre _ ≠ 0 := fun h0 => step_regleReserve_ne_done h0 r hr
    have hquota := hok.1 rfl hresa
    exact (alone_create s _ _ _ hu).trans ((alone_resoudreLivre s _ _ _ hl).trans
      (alone_regleQuota s _ _ _ hquota))
  | regleEmprunt hu hl =>
    -- it decides only by a refusal: the book is on loan
    have hemp : s.enCoursLivre _ ≠ 0 := fun h0 => step_regleEmprunt_ne_done h0 r hr
    obtain ⟨hquota, hresa⟩ := hok.2.1 rfl hemp
    exact (alone_create s _ _ _ hu).trans ((alone_resoudreLivre s _ _ _ hl).trans
      ((alone_regleQuota s _ _ _ hquota).trans (alone_regleReserve s _ _ _ hresa)))
  | enregistrer hu hl hlibre =>
    obtain ⟨hquota, hresa⟩ := hok.2.2 rfl
    exact (alone_create s _ _ _ hu).trans ((alone_resoudreLivre s _ _ _ hl).trans
      ((alone_regleQuota s _ _ _ hquota).trans ((alone_regleReserve s _ _ _ hresa).trans
        (alone_regleEmprunt s _ _ _ hlibre))))
  | resoudreReservation hu => exact alone_delete s _ _ hu
  | annuler hu hk hown =>
    obtain ⟨resa, hresa⟩ := Option.ne_none_iff_exists'.mp (hok rfl)
    exact (alone_delete s _ _ hu).trans (alone_resoudreReservation s _ _ hresa (hown resa hresa))
  | fini => exact absurd rfl (hp _)

/-- An access that does not decide the answer is a query. -/
theorem Etape.step_store {s : Tables} {a : Appel} {p : Handler} (h : Etape s a p)
    (hne : ∀ r, (p.step s).2 ≠ .done r) : (p.step s).1 = s := by
  cases h with
  | enregistrer =>
    obtain ⟨r, hr⟩ := step_flush_done _ _ s
    exact absurd hr (hne r)
  | annuler =>
    obtain ⟨r, hr⟩ := step_flush_done _ _ s
    exact absurd hr (hne r)
  | _ => rfl

/-- **One access.**  It changes the tables as calls do, and takes its call to the next stage. -/
theorem Etape.step {s : Tables} {a : Appel} {p : Handler} (h : Etape s a p) :
    Evolue s (p.step s).1 ∧ Etape (p.step s).1 a (p.step s).2 := by
  cases h with
  | debutCreate =>
    refine ⟨.refl s, ?_⟩
    rw [ReservationsController.create, read_bind, step_query]
    split
    · exact .fini
    · next row hrow => exact .resoudreLivre (by rw [hrow]; exact Option.some_ne_none _)
  | resoudreLivre hu =>
    refine ⟨.refl s, ?_⟩
    rw [ReservationsController.resoudreLivre, read_bind, step_query]
    split
    · exact .fini
    · next row hrow => exact .regleQuota hu (by rw [hrow]; exact Option.some_ne_none _)
  | regleQuota hu hl =>
    refine ⟨.refl s, ?_⟩
    rw [ReservationsController.regleQuota, read_bind, step_query]
    split
    · exact .fini
    · exact .regleReserve hu hl
  | regleReserve hu hl =>
    refine ⟨.refl s, ?_⟩
    rw [ReservationsController.regleReserve, read_bind, step_query]
    split
    · exact .fini
    · exact .regleEmprunt hu hl
  | regleEmprunt hu hl =>
    refine ⟨.refl s, ?_⟩
    rw [ReservationsController.regleEmprunt, read_bind, step_query]
    split
    · exact .fini
    · next hemp =>
      exact .enregistrer hu hl ((find_enCours_isSome s _).mp (by simpa using hemp))
  | @enregistrer u l now hu hl hlibre =>
    rw [ReservationsController.enregistrer, save_bind]
    cases hc : commit [Statement.insertReservations
        ⟨none, some (toDatetime now), some u, some l⟩] s with
    | none =>
      rw [step_flush_none hc]
      exact ⟨.refl s, .fini⟩
    | some s' =>
      rw [step_flush_some hc]
      exact ⟨evolue_insert (commit_singleton hc), .fini⟩
  | debutDelete =>
    refine ⟨.refl s, ?_⟩
    rw [ReservationsController.delete, read_bind, step_query]
    split
    · exact .fini
    · next row hrow => exact .resoudreReservation (by rw [hrow]; exact Option.some_ne_none _)
  | @resoudreReservation u k hu =>
    refine ⟨.refl s, ?_⟩
    rw [ReservationsController.resoudreReservation, read_bind, step_query]
    split
    · exact .fini
    · next resa hresa =>
      split
      · exact .fini
      · next hown =>
        have hlt := s.reservations.lt_next resa (Table.mem_of_find hresa)
        rw [Table.key_of_find hresa] at hlt
        refine .annuler hu hlt fun r hr => ?_
        obtain rfl : resa = r := Option.some.inj (hresa.symm.trans hr)
        exact not_not.mp hown
  | annuler hu hk hown => exact ⟨evolue_delete s _, .fini⟩
  | fini => exact ⟨.refl s, .fini⟩

/-! ### Interleavings -/

/-- **Serializability.**  In an interleaving of calls none of which decides on a rule that no
longer holds, the tables and the answers are those of serving the calls one after another. -/
theorem serialFrom_of_sansReleveePerimee (s : Tables) (es : List (Event Appel))
    (hok : Along (Config.step Appel.handler) SansReleveePerimee (Config.idle s) es) :
    Config.SerialFrom Appel.handler s (run (Config.step Appel.handler) (Config.idle s) es) := by
  apply Config.serialFrom_of_atomic
  refine Along.of_invariant _ (I := Config.Staged Etape) ?_ ?_ es _
    (Config.staged_idle _ s) hok
  · intro c e hc _
    exact hc.step _ etape_handler (fun _ _ _ _ hev h => h.evolue hev) e
      fun _ _ _ _ _ hstage => hstage.step
  · intro c e hc he
    cases e with
    | arrive a => trivial
    | advance i =>
      intro a p hi hp
      have hstage : Etape c.store a p := hc _ (List.mem_of_getElem? hi)
      constructor
      · intro r hr
        rw [hstage.alone_eq (he a p hi) hp hr, alone_step, hr]
        rfl
      · exact hstage.step_store

/-! ### What serial execution gives -/

/-- The bounds on the reservations hold after any calls served one after another. -/
theorem resasBornees_serial {s : Tables} (hs : ResasBornees s) (as : List Appel) :
    ResasBornees (Config.serial Appel.handler as s).1 := by
  rw [Config.serial_fst]
  refine run_preserves _ (fun s a hs => ?_) as s hs
  cases a with
  | create u l now =>
    exact hs.of_regles (reglesResas_apres Exemple.services s (.apiCreate u l now))
  | delete u k =>
    exact hs.of_regles (reglesResas_apres Exemple.services s (.apiDelete u k))

/-- A call that creates a reservation of the book `l`, answered with 201. -/
def accepte (l : ℕ) : Appel × Reponse → Bool
  | (.create _ livre _, .json status _) => livre == l && status == 201
  | _ => false

/-- A `create` answers 201 for a book without reservation, and leaves it with one; otherwise it
writes nothing. -/
theorem alone_create_cases (s : Tables) (u l : ℕ) (now : Instant) :
    ((ReservationsController.create u l now).alone s).1 = s ∧
        accepte l (.create u l now, ((ReservationsController.create u l now).alone s).2) = false ∨
      s.resasLivre l = 0 ∧ ∃ row : ReservationsRow, row.livre = l ∧
        ((ReservationsController.create u l now).alone s).1
          = { s with reservations := s.reservations.insert row } := by
  by_cases hu : s.utilisateur.find u = none
  · left
    simp [ReservationsController.create, hu, accepte]
  rw [alone_create s u l now hu]
  by_cases hl : s.livre.find l = none
  · left
    simp [ReservationsController.resoudreLivre, hl, accepte]
  rw [alone_resoudreLivre s u l now hl]
  by_cases hquota : s.resasUtilisateur u < 3
  swap
  · left
    have hlen : (s.reservations.select fun r => r.utilisateur == u).length ≥ 3 := by
      rw [length_resas]
      omega
    simp [ReservationsController.regleQuota, hlen, accepte]
  rw [alone_regleQuota s u l now hquota]
  by_cases hresa : s.resasLivre l = 0
  swap
  · left
    have hfound := mt (find_resa_isSome s l).mp hresa
    rw [Bool.not_eq_false] at hfound
    rw [ReservationsController.regleReserve, read_bind, alone_query, if_pos hfound]
    exact ⟨rfl, by simp [accepte]⟩
  rw [alone_regleReserve s u l now hresa]
  by_cases hlibre : s.enCoursLivre l = 0
  swap
  · left
    have hfound := mt (find_enCours_isSome s l).mp hlibre
    rw [Bool.not_eq_false] at hfound
    rw [ReservationsController.regleEmprunt, read_bind, alone_query, if_pos hfound]
    exact ⟨rfl, by simp [accepte]⟩
  rw [alone_regleEmprunt s u l now hlibre, ReservationsController.enregistrer, save_bind]
  cases hc : commit [Statement.insertReservations
      ⟨none, some (toDatetime now), some u, some l⟩] s with
  | none =>
    left
    rw [alone_flush_none hc]
    exact ⟨rfl, by simp [apresFlush, accepte]⟩
  | some s' =>
    right
    rw [alone_flush_some hc]
    obtain ⟨row, hrow, hs'⟩ := exec_insertReservations (commit_singleton hc)
    exact ⟨hresa, row, (Option.some.inj hrow.livre).symm, hs'⟩

/-- Served one after another without cancellation, calls for a book get 201 at most once, and not
at all if it has a reservation. -/
theorem countP_accepte_serial (l : ℕ) : ∀ (as : List Appel) (s : Tables),
    (∀ a ∈ as, ∃ u l' now, a = .create u l' now) →
      (as.zip (Config.serial Appel.handler as s).2).countP (accepte l)
        + min (s.resasLivre l) 1 ≤ 1
  | [], s, _ => by
    simp only [List.zip_nil_left, List.countP_nil]
    omega
  | a :: as, s, hcreate => by
    obtain ⟨u, l', now, rfl⟩ := hcreate a (List.mem_cons_self ..)
    have ih := countP_accepte_serial l as ((ReservationsController.create u l' now).alone s).1
      fun b hb => hcreate b (List.mem_cons_of_mem _ hb)
    simp only [Config.serial, List.zip_cons_cons, List.countP_cons, Appel.handler] at ih ⊢
    rcases alone_create_cases s u l' now with ⟨hsame, hrefus⟩ | ⟨hzero, row, hlivre, hins⟩
    · -- refused: the tables are the same and the call does not count
      have hrefus' : accepte l
          (.create u l' now, ((ReservationsController.create u l' now).alone s).2) = false := by
        revert hrefus
        cases ((ReservationsController.create u l' now).alone s).2 <;> simp +contextual [accepte]
      rw [hsame] at ih
      rw [hsame, hrefus']
      simpa using ih
    · -- accepted: a book without reservation gets one
      have hcount := Table.count_insert s.reservations row (resaSurLivre l)
      rw [hins] at ih
      rw [hins]
      unfold Tables.resasLivre at ih hzero ⊢
      dsimp only at ih
      rw [hcount] at ih
      have hrow : (resaSurLivre l (Keyed.withKey s.reservations.next row)) = decide (l' = l) := by
        rw [← hlivre]
        rfl
      rw [hrow] at ih
      by_cases hl : l' = l
      · subst hl
        rw [hzero] at ih ⊢
        simp only [decide_true, Bool.toNat_true] at ih
        split <;> omega
      · have hautre : accepte l
            (.create u l' now, ((ReservationsController.create u l' now).alone s).2) = false := by
          cases ((ReservationsController.create u l' now).alone s).2 <;> simp [accepte, hl]
        rw [hautre]
        simp only [hl, decide_false, Bool.toNat_false, Nat.add_zero] at ih
        simpa using ih

theorem countP_accepte_le_one {s s' : Tables} {order : List (Appel × Reponse)}
    (hser : Config.serial Appel.handler (order.map Prod.fst) s = (s', order.map Prod.snd))
    (hcreate : ∀ x ∈ order, ∃ u l now, x.1 = .create u l now) (l : ℕ) :
    order.countP (accepte l) ≤ 1 := by
  have hcount := countP_accepte_serial l (order.map Prod.fst) s fun a ha => by
    obtain ⟨x, hx, rfl⟩ := List.mem_map.mp ha
    exact hcreate x hx
  have hzip : (order.map Prod.fst).zip (order.map Prod.snd) = order := by
    rw [List.zip_map']
    exact List.map_id _
  rw [hser, hzip] at hcount
  omega

/-- **Serializability of the API.**  Take any tables and any interleaving of calls in which no call
decides on a rule that no longer holds.  The tables and the answers are those of serving the calls
that have answered one after another; if the reservations were within their bounds they still are,
and without cancellations no two calls get 201 for one book.  The condition is enough and not
necessary: a call may decide on a rule that no longer holds and yet answer as it would have in some
order. -/
theorem api_calls_serializable (s : Tables) (es : List (Event Appel))
    (hok : Along (Config.step Appel.handler) SansReleveePerimee (Config.idle s) es) :
    let c := run (Config.step Appel.handler) (Config.idle s) es
    Config.SerialFrom Appel.handler s c ∧
      (ResasBornees s → ResasBornees c.store) ∧
      ((∀ ap ∈ c.procs, ∃ u l now, ap.1 = .create u l now) →
        ∀ l, c.answers.countP (accepte l) ≤ 1) := by
  intro c
  have hserial := serialFrom_of_sansReleveePerimee s es hok
  refine ⟨hserial, ?_, ?_⟩
  · intro hs
    obtain ⟨order, -, hser⟩ := hserial
    have hbound := resasBornees_serial hs (order.map Prod.fst)
    rw [hser] at hbound
    exact hbound
  · intro hcreate l
    obtain ⟨order, hperm, hser⟩ := hserial
    rw [← hperm.countP_eq]
    refine countP_accepte_le_one hser (fun x hx => ?_) l
    obtain ⟨⟨b, q⟩, hproc, hans⟩ := List.mem_filterMap.mp (hperm.mem_iff.mp hx)
    obtain ⟨u, l', now, hb⟩ := hcreate _ hproc
    cases q with
    | done r =>
      obtain rfl := Option.some.inj hans
      exact ⟨u, l', now, hb⟩
    | query k => cases hans
    | flush ws k => cases hans

/-- Two members reserve two books at the same time. -/
theorem api_calls_serializable_two_books :
    let c := run (Config.step Appel.handler) (Config.idle (Exemple.tables .empty .empty))
      [.arrive (.create 5 1 0), .arrive (.create 6 2 0), .advance 0, .advance 1, .advance 0,
        .advance 1, .advance 0, .advance 1, .advance 0, .advance 1, .advance 0, .advance 1,
        .advance 0, .advance 1]
    c.answers = [(.create 5 1 0, .json 201 "Livre réservé avec succès !"),
        (.create 6 2 0, .json 201 "Livre réservé avec succès !")] ∧
      Config.SerialFrom Appel.handler (Exemple.tables .empty .empty) c := by
  refine ⟨by decide, (api_calls_serializable _ _ ?_).1⟩
  have hvalable : ∀ {s : Tables} {u l : ℕ} {now : Instant} {a : Appel} {p p' : Handler},
      some (Appel.create u l now, p') = some (a, p) → s.resasUtilisateur u < 3 →
        s.resasLivre l = 0 → ToujoursValable s a p := by
    rintro s u l now a p p' h hquota hresa
    obtain ⟨rfl, -⟩ := Prod.mk.inj (Option.some.inj h)
    exact ⟨fun _ _ => hquota, fun _ _ => ⟨hquota, hresa⟩, fun _ => ⟨hquota, hresa⟩⟩
  refine ⟨trivial, trivial, ?_, ?_, ?_, ?_, ?_, ?_, ?_, ?_, ?_, ?_, ?_, ?_, trivial⟩
  all_goals
    intro a p h
    exact hvalable h (by decide) (by decide)

/-- Two members check the same free book, and both reserve it. -/
theorem api_calls_not_serializable :
    let c := run (Config.step Appel.handler) (Config.idle (Exemple.tables .empty .empty))
      [.arrive (.create 5 1 0), .arrive (.create 6 1 0), .advance 0, .advance 0, .advance 0,
        .advance 0, .advance 0, .advance 1, .advance 1, .advance 1, .advance 1, .advance 1,
        .advance 0, .advance 1]
    c.answers = [(.create 5 1 0, .json 201 "Livre réservé avec succès !"),
        (.create 6 1 0, .json 201 "Livre réservé avec succès !")] ∧
      c.store.resasLivre 1 = 2 ∧
      ¬ Config.SerialFrom Appel.handler (Exemple.tables .empty .empty) c := by
  intro c
  have hanswers : c.answers = [(.create 5 1 0, .json 201 "Livre réservé avec succès !"),
      (.create 6 1 0, .json 201 "Livre réservé avec succès !")] := by decide
  refine ⟨hanswers, by decide, ?_⟩
  rintro ⟨order, hperm, hser⟩
  -- in every serial order of the two calls, 201 is answered at most once
  rw [hanswers] at hperm
  have hcount := countP_accepte_le_one hser (fun x hx => ?_) 1
  · rw [hperm.countP_eq] at hcount
    exact absurd hcount (by decide)
  · have hx := hperm.mem_iff.mp hx
    simp only [List.mem_cons, List.not_mem_nil, or_false] at hx
    rcases hx with rfl | rfl
    · exact ⟨5, 1, 0, rfl⟩
    · exact ⟨6, 1, 0, rfl⟩

end Biblio
