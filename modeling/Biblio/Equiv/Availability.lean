import Biblio.Equiv.ApiSerial
import Biblio.Equiv.Deletion
import Biblio.LivreDetail

/-!
# Availability of a book

The conditions of a reservation are in four places: the three rules of
`ReservationsController::create`, those of `ReservationRulesValidator`, the two flags of a
serialized book and the button of its page.  `issue_create` says what `create` does by the three
numbers they are about, and the others are compared with it (`availability_agrees`).

The page works on the whole database: `create` is lifted to it, and writes nothing else there
(`alone_surBase`).
-/

namespace Biblio

open Prog ReservationsController

/-! ### The rules -/

/-- The three rules of a reservation. -/
inductive Regle where
  | quota
  | reserve
  | emprunte
  deriving DecidableEq

/-- The rule a message of the API names. -/
def Regle.deReponse (message : String) : Option Regle :=
  if message = "Limite de 3 réservations atteinte." then some .quota
  else if message = "Ce livre est déjà réservé." then some .reserve
  else if message = "Ce livre est actuellement emprunté." then some .emprunte
  else none

/-- The rule of a violation. -/
def Regle.deViolation (v : Violation) : Option Regle :=
  if v.message = ReservationRules.messageMaxResa then some .quota
  else if v.message = ReservationRules.messageDejaReserve then some .reserve
  else if v.message = ReservationRules.messageDejaEmprunte then some .emprunte
  else none

/-- What `create` does for an existing account and book. -/
inductive IssueCreate (s : Tables) (u l : ℕ) (now : Instant) : Tables × Reponse → Prop
  | quota (h : 3 ≤ s.resasUtilisateur u) :
      IssueCreate s u l now (s, .json 409 "Limite de 3 réservations atteinte.")
  | reserve (hquota : s.resasUtilisateur u < 3) (h : 0 < s.resasLivre l) :
      IssueCreate s u l now (s, .json 409 "Ce livre est déjà réservé.")
  | emprunte (hquota : s.resasUtilisateur u < 3) (hresa : s.resasLivre l = 0)
      (h : 0 < s.enCoursLivre l) :
      IssueCreate s u l now (s, .json 409 "Ce livre est actuellement emprunté.")
  | cree (hquota : s.resasUtilisateur u < 3) (hresa : s.resasLivre l = 0)
      (h : s.enCoursLivre l = 0) :
      IssueCreate s u l now
        ({ s with reservations := s.reservations.insert ⟨0, toDatetime now, u, l⟩ },
          .json 201 "Livre réservé avec succès !")

theorem issue_create {s : Tables} {u l : ℕ} (hu : s.hasUtilisateur u = true)
    (hl : s.hasLivre l = true) (now : Instant) :
    IssueCreate s u l now ((create u l now).alone s) := by
  have hu' : s.utilisateur.find u ≠ none := Option.isSome_iff_ne_none.mp hu
  have hl' : s.livre.find l ≠ none := Option.isSome_iff_ne_none.mp hl
  rw [alone_create s u l now hu', alone_resoudreLivre s u l now hl']
  by_cases hquota : s.resasUtilisateur u < 3
  swap
  · have hlen : (s.reservations.select fun r => r.utilisateur == u).length ≥ 3 := by
      rw [length_resas]
      omega
    rw [regleQuota, read_bind, alone_query, if_pos hlen]
    exact .quota (by omega)
  rw [alone_regleQuota s u l now hquota]
  by_cases hresa : s.resasLivre l = 0
  swap
  · have hfound := mt (find_resa_isSome s l).mp hresa
    rw [Bool.not_eq_false] at hfound
    rw [regleReserve, read_bind, alone_query, if_pos hfound]
    exact .reserve hquota (by omega)
  rw [alone_regleReserve s u l now hresa]
  by_cases hlibre : s.enCoursLivre l = 0
  swap
  · have hfound := mt (find_enCours_isSome s l).mp hlibre
    rw [Bool.not_eq_false] at hfound
    rw [regleEmprunt, read_bind, alone_query, if_pos hfound]
    exact .emprunte hquota hresa (by omega)
  rw [alone_regleEmprunt s u l now hlibre, enregistrer, save_bind]
  have hcommit : commit [Statement.insertReservations
      ⟨none, some (toDatetime now), some u, some l⟩] s
        = some { s with reservations := s.reservations.insert ⟨0, toDatetime now, u, l⟩ } := by
    have hexec : exec (.insertReservations ⟨none, some (toDatetime now), some u, some l⟩) s
        = some { s with reservations := s.reservations.insert ⟨0, toDatetime now, u, l⟩ } :=
      if_pos ⟨hu, hl⟩
    show (exec _ s).bind some = _
    rw [hexec]
    rfl
  rw [alone_flush_some hcommit]
  exact .cree hquota hresa hlibre

/-- What the validator reports for a new reservation. -/
theorem answer_validate_new (s : Tables) (dateResa : Option Datetime) (u l : ℕ) :
    (ReservationRulesValidator.validate ⟨none, dateResa, some u, some l⟩).answer s
      = (if s.resasUtilisateur u ≥ 3 then [⟨ReservationRules.messageMaxResa, "utilisateur"⟩]
          else [])
        ++ (if s.resasLivre l > 0 then [⟨ReservationRules.messageDejaReserve, "livre"⟩] else [])
        ++ (if s.enCoursLivre l > 0 then [⟨ReservationRules.messageDejaEmprunte, "livre"⟩]
          else []) := by
  have hanswer :
      (ReservationRulesValidator.validate ⟨none, dateResa, some u, some l⟩).answer s = _ :=
    ReservationRulesValidator.answer_validate_of_complete s rfl rfl
  rw [Option.getD_none, Table.others_zero, Table.others_zero] at hanswer
  exact hanswer

/-- The rule of the first violation is the one that `create` names. -/
structure MemeRegle (violations : List Violation) (r : Reponse) : Prop where
  cree : r.status = 201 ↔ violations = []
  refus : ∀ message, r = .json 409 message → ∃ v vs regle, violations = v :: vs ∧
    Regle.deViolation v = some regle ∧ Regle.deReponse message = some regle

theorem IssueCreate.memeRegle {s : Tables} {u l : ℕ} {now : Instant} {issue : Tables × Reponse}
    (h : IssueCreate s u l now issue) (dateResa : Option Datetime) :
    MemeRegle ((ReservationRulesValidator.validate ⟨none, dateResa, some u, some l⟩).answer s)
      issue.2 := by
  rw [answer_validate_new]
  cases h with
  | quota h =>
    rw [if_pos h]
    refine ⟨iff_of_false nofun nofun, fun message hmessage => ?_⟩
    obtain rfl := (Reponse.json.inj hmessage).2
    exact ⟨_, _, .quota, rfl, by decide, by decide⟩
  | reserve hquota h =>
    rw [if_neg (by omega), if_pos h]
    refine ⟨iff_of_false nofun nofun, fun message hmessage => ?_⟩
    obtain rfl := (Reponse.json.inj hmessage).2
    exact ⟨_, _, .reserve, rfl, by decide, by decide⟩
  | emprunte hquota hresa h =>
    rw [if_neg (by omega), if_neg (by omega), if_pos h]
    refine ⟨iff_of_false nofun nofun, fun message hmessage => ?_⟩
    obtain rfl := (Reponse.json.inj hmessage).2
    exact ⟨_, _, .emprunte, rfl, by decide, by decide⟩
  | cree hquota hresa h =>
    rw [if_neg (by omega), if_neg (by omega), if_neg (by omega)]
    exact ⟨iff_of_true rfl rfl, nofun⟩

/-! ### The flags -/

section Flags

variable (b : Base) (l : LivreRow)

theorem isReserve_eq_false_iff :
    (b.serialiser l).isReserve = false ↔ b.tables.resasLivre l.id = 0 := by
  show (!(b.tables.reservations.select fun r => r.livre == l.id).isEmpty) = false ↔ _
  rw [Bool.not_eq_false', List.isEmpty_iff_length_eq_zero, Table.length_select]
  rfl

theorem isEmprunte_eq_false_iff :
    (b.serialiser l).isEmprunte = false ↔ b.tables.enCoursLivre l.id = 0 :=
  getIsEmprunte_eq_false_iff b.tables l.id

/-- The button is enabled when both flags are false. -/
theorem disabled_eq_false_iff (x : LivreRead) :
    LivreDetail.disabled x = false ↔ x.isReserve = false ∧ x.isEmprunte = false := by
  rw [LivreDetail.disabled, Bool.or_eq_false_iff, and_comm]

end Flags

/-- A member under the quota reserves a book exactly when its flags are false. -/
theorem IssueCreate.status_eq_iff {b : Base} {u : ℕ} {l : LivreRow} {now : Instant}
    {issue : Tables × Reponse} (h : IssueCreate b.tables u l.id now issue)
    (hquota : b.tables.resasUtilisateur u < 3) :
    issue.2.status = 201 ↔
      (b.serialiser l).isReserve = false ∧ (b.serialiser l).isEmprunte = false := by
  rw [isReserve_eq_false_iff, isEmprunte_eq_false_iff]
  cases h with
  | quota h => omega
  | reserve _ h => exact iff_of_false nofun fun hflags => by omega
  | emprunte _ _ h => exact iff_of_false nofun fun hflags => by omega
  | cree _ hresa h => exact iff_of_true rfl ⟨hresa, h⟩

/-! ### The whole database -/

/-- `create` reads, and makes at most the insertion of a reservation. -/
theorem endsBy_create (u l : ℕ) (now : Instant) :
    (create u l now).EndsBy (fun _ => True) fun ws _ => ∃ v, ws = [.insertReservations v] := by
  unfold create resoudreLivre regleQuota regleReserve regleEmprunt enregistrer
  simp only [read_bind, save_bind]
  refine .query fun s => ?_
  split
  · exact .done trivial
  refine .query fun s => ?_
  split
  · exact .done trivial
  refine .query fun s => ?_
  split
  · exact .done trivial
  refine .query fun s => ?_
  split
  · exact .done trivial
  refine .query fun s => ?_
  split
  · exact .done trivial
  exact .flush ⟨_, rfl⟩

/-- A handler that deletes no book changes the four tables as on their own, and nothing else. -/
theorem alone_surBase {p : Handler} {A : Reponse → Prop}
    {P : List Statement → (Bool → Reponse) → Prop} (hp : p.EndsBy A P)
    (hP : ∀ ws f, P ws f → ∀ w ∈ ws, ∀ liens, w.cascade liens = liens) (b : Base) :
    p.surBase.alone b = ({ b with tables := (p.alone b.tables).1 }, (p.alone b.tables).2) := by
  induction hp with
  | done _ => rfl
  | query _ ih => exact ih b.tables
  | @flush ws f h =>
    have hcascade : ∀ liens : Liens, ws.foldl (fun liens w => w.cascade liens) liens = liens := by
      intro liens
      refine List.foldlRecOn (motive := fun l => l = liens) ws _ rfl fun l hl w hw => ?_
      rw [hP ws f h w hw, hl]
    have hcommit := commit_prets ws b
    cases hc : commit ws b.tables with
    | none =>
      rw [hc] at hcommit
      rw [alone_flush_none hc]
      exact alone_flush_none hcommit
    | some s' =>
      rw [hc] at hcommit
      rw [alone_flush_some hc]
      refine (alone_flush_some hcommit).trans ?_
      unfold Base.avec
      rw [hcascade, hcascade]
      rfl

/-- The book after its reservation, serialized: only the flag has changed. -/
theorem serialiser_reserve (b : Base) (l : LivreRow) {row : ReservationsRow}
    (hrow : row.livre = l.id) :
    ({ b with tables := { b.tables with
        reservations := b.tables.reservations.insert row } } : Base).serialiser l
      = { b.serialiser l with isReserve := true } := by
  have hreserve : getIsReserve ((b.tables.reservations.insert row).select fun r => r.livre == l.id)
      = true := by
    have hmem : Keyed.withKey b.tables.reservations.next row
        ∈ (b.tables.reservations.insert row).select fun r => r.livre == l.id :=
      Table.mem_select.mpr ⟨Table.mem_insert.mpr (.inr rfl), beq_iff_eq.mpr hrow⟩
    rw [getIsReserve, Bool.not_eq_true', List.isEmpty_eq_false_iff]
    exact List.ne_nil_of_mem hmem
  unfold Base.serialiser
  rw [hreserve]
  rfl

/-- **Availability.**  For every database, every account and every book: `create` answers 201
exactly when the validator reports nothing, and a 409 names the rule of its first violation; for a
member with fewer than three reservations that is when both flags of the book are false, which
enables the button; and after a 201 the page shows the book as the API would give it. -/
theorem availability_agrees (services : Services) (b : Base) (membre : UtilisateurRow)
    (hmembre : membre ∈ b.tables.utilisateur.rows) (livre : LivreRow)
    (hlivre : livre ∈ b.tables.livre.rows) (now : Instant) (dateResa : Option Datetime) :
    let issue :=
      ((RequeteBase.prets (.apiCreate membre.id livre.id now)).handler services).alone b
    let lu := b.serialiser livre
    MemeRegle ((ReservationRulesValidator.validate
        ⟨none, dateResa, some membre.id, some livre.id⟩).answer b.tables) issue.2 ∧
      (b.tables.resasUtilisateur membre.id < 3 →
        (issue.2.status = 201 ↔ lu.isReserve = false ∧ lu.isEmprunte = false) ∧
        (issue.2.status = 201 ↔ LivreDetail.disabled lu = false)) ∧
      (issue.2.status = 201 → ∀ page : LivreDetail,
        page.livre = LivreController.lire b livre.id →
          (page.onReserve issue.2).livre = LivreController.lire issue.1 livre.id) := by
  intro issue lu
  have hfind : b.tables.livre.find livre.id = some livre :=
    (b.tables.livre.find_eq_some_iff _ _).mpr ⟨hlivre, rfl⟩
  have hu : b.tables.hasUtilisateur membre.id = true :=
    (b.tables.utilisateur.isSome_find_iff _).mpr ⟨membre, hmembre, rfl⟩
  have hl : b.tables.hasLivre livre.id = true :=
    (b.tables.livre.isSome_find_iff _).mpr ⟨livre, hlivre, rfl⟩
  have hissue : issue = ({ b with tables := ((create membre.id livre.id now).alone b.tables).1 },
      ((create membre.id livre.id now).alone b.tables).2) := by
    refine alone_surBase (endsBy_create membre.id livre.id now) (fun ws f hws => ?_) b
    obtain ⟨v, rfl⟩ := hws
    intro w hw liens
    obtain rfl := List.mem_singleton.mp hw
    rfl
  have hcreate := issue_create hu hl now
  have hquota := fun h => hcreate.status_eq_iff h
  refine ⟨?_, fun h => ⟨?_, ?_⟩, fun h201 page hpage => ?_⟩
  · rw [hissue]
    exact hcreate.memeRegle dateResa
  · rw [hissue]
    exact hquota h
  · rw [disabled_eq_false_iff, hissue]
    exact hquota h
  · rw [hissue] at h201 ⊢
    generalize (create membre.id livre.id now).alone b.tables = outcome at hcreate h201
    cases hcreate with
    | quota _ => cases h201
    | reserve _ _ => cases h201
    | emprunte _ _ _ => cases h201
    | cree _ _ _ =>
      show (page.livre.map fun l => { l with isReserve := true }) = _
      rw [hpage, LivreController.lire, LivreController.lire, hfind]
      exact congrArg some (serialiser_reserve b livre rfl).symm

/-- A member without reservations and a book that is free: the button is enabled, and the page shows
the book as reserved after the request. -/
theorem availability_agrees_free_book :
    let b := Exemple.base .empty .empty
    let issue :=
      ((RequeteBase.prets (.apiCreate 5 1 0)).handler Exemple.services).alone b
    let page := LivreDetail.ngOnInit.next .constructeur
      (b.serialiser ⟨1, "Beatae asperiores aut", none, "Espagnol", none⟩)
    issue.2.status = 201 ∧ (page.onReserve issue.2).livre = LivreController.lire issue.1 1 := by
  intro b issue page
  obtain ⟨-, hflags, hpage⟩ := availability_agrees Exemple.services b
    (Exemple.compte 5 "adherent0@articles.fr" ["ROLE_USER"] "password") (by decide)
    ⟨1, "Beatae asperiores aut", none, "Espagnol", none⟩ (by decide) 0 none
  have h201 : issue.2.status = 201 := (hflags (by decide)).1.mpr ⟨by decide, by decide⟩
  exact ⟨h201, hpage h201 page rfl⟩

end Biblio
