import Biblio.Equiv.TokenOwner

/-!
# The update of a profile

`updateMe` reads an untyped body field by field.  `issue_updateMe` says all it can do: it reports a
conflict (`Conflit`), or it decides on the three values (`UserController.Decide`) and the row gets
what its columns keep of them in one statement (`avecProfil`), or it ends with another error; in the
first and the last case the tables are as they were.

* `profile_update_atomic_iff`: an answer other than 200 leaves the tables unchanged, and an answer
  200 has changed the three fields of the account as the body says, and nothing else, unless a
  value of the body is too long for its column by nothing but spaces.
* `email_conflict_iff`: with a string as email, a conflict is reported exactly for the email of
  another account, and the email is taken over otherwise, unless the string is another spelling of
  the account's own email, for which the query finds the account itself, is too long for its column,
  or the update fails for another reason.
-/

namespace Biblio

open Prog UserController

/-! ### The statement of `updateMe` -/

section Statement

variable {s : Tables} {row : UtilisateurRow}

/-- The account `row` with its new values, as `updateMe` sets and answers them. -/
def profil (row : UtilisateurRow) (email : String) (adressePostale numTel : Option String) :
    UtilisateurRow :=
  { row with email := email, adressePostale := adressePostale, numTel := numTel }

/-- The account `row` with what its columns keep of the new values. -/
def profilGarde (row : UtilisateurRow) (email : String) (adressePostale numTel : Option String) :
    UtilisateurRow :=
  profil row (garde (couper 180) (some row.email) email)
    (garde (Option.map (couper 255)) (some row.adressePostale) adressePostale)
    (garde (Option.map (couper 20)) (some row.numTel) numTel)

/-- The tables after the account `row` got its new values. -/
def avecProfil (s : Tables) (row : UtilisateurRow) (email : String)
    (adressePostale numTel : Option String) : Tables :=
  { s with
    utilisateur := s.utilisateur.update row.id fun _ =>
      profilGarde row email adressePostale numTel }

/-- The database takes the new values: they fit their columns and the email is not taken. -/
def Enregistrable (s : Tables) (row : UtilisateurRow) (email : String)
    (adressePostale numTel : Option String) : Prop :=
  (profil row email adressePostale numTel).toEntity.fits = true ∧
    (email = row.email ∨ s.emailLibre row.id (couper 180 email) = true)

instance (email : String) (adressePostale numTel : Option String) :
    Decidable (Enregistrable s row email adressePostale numTel) :=
  inferInstanceAs (Decidable (_ ∧ _))

theorem exec_profil (hrow : s.utilisateur.find row.id = some row) (email : String)
    (adressePostale numTel : Option String) :
    exec (.updateUtilisateur row.id row { row.toEntity with
        email := some email, adressePostale := adressePostale, numTel := numTel }) s
      = if Enregistrable s row email adressePostale numTel then
          some (avecProfil s row email adressePostale numTel) else none := by
  have hupdate := s.utilisateur.update_congr (i := row.id)
    (f := fun r => { r with
      email := changedTo (couper 180) row.email email r.email
      roles := changed row.roles row.roles r.roles
      password := changedTo (couper 255) row.password row.password r.password
      nom := changedTo (Option.map (couper 100)) row.nom row.nom r.nom
      prenom := changedTo (Option.map (couper 100)) row.prenom row.prenom r.prenom
      dateAdhesion := changed row.dateAdhesion row.dateAdhesion r.dateAdhesion
      dateNaiss := changed row.dateNaiss row.dateNaiss r.dateNaiss
      adressePostale := changedTo (Option.map (couper 255))
        row.adressePostale adressePostale r.adressePostale
      numTel := changedTo (Option.map (couper 20)) row.numTel numTel r.numTel
      photo := changedTo (Option.map (couper 255)) row.photo row.photo r.photo })
    (g := fun _ => profilGarde row email adressePostale numTel) (fun r hr => by
      -- the row is the one the entity was read from
      obtain rfl : r = row := Option.some.inj (hr.symm.trans hrow)
      simp only [changed_self, changedTo_self, garde_self]
      rfl)
  simp only [exec, UtilisateurRow.toEntity, hupdate]
  rfl

theorem find_avecProfil (hrow : s.utilisateur.find row.id = some row) (email : String)
    (adressePostale numTel : Option String) :
    (avecProfil s row email adressePostale numTel).utilisateur.find row.id
      = some (profilGarde row email adressePostale numTel) := by
  rw [avecProfil, Table.find_update_self, hrow]
  rfl

/-- Each value is that of the account already, or short enough for its column. -/
structure TientEnColonnes (row : UtilisateurRow) (email : String)
    (adressePostale numTel : Option String) : Prop where
  email : email = row.email ∨ email.length ≤ 180
  adressePostale : adressePostale = row.adressePostale ∨
    ∀ t, adressePostale = some t → t.length ≤ 255
  numTel : numTel = row.numTel ∨ ∀ t, numTel = some t → t.length ≤ 20

theorem garde_couper_eq_iff {n : ℕ} {o v : String} :
    garde (couper n) (some o) v = v ↔ v = o ∨ v.length ≤ n := by
  by_cases h : v = o
  · rw [h, garde_self]
    exact ⟨fun _ => Or.inl rfl, fun _ => rfl⟩
  · rw [garde, if_neg fun heq => h (Option.some.inj heq), couper_eq_self_iff, or_iff_right h]

theorem garde_map_eq_iff {n : ℕ} {o v : Option String} :
    garde (Option.map (couper n)) (some o) v = v ↔ v = o ∨ ∀ t, v = some t → t.length ≤ n := by
  by_cases h : v = o
  · rw [h, garde_self]
    exact ⟨fun _ => Or.inl rfl, fun _ => rfl⟩
  · rw [garde, if_neg fun heq => h (Option.some.inj heq), or_iff_right h]
    cases v with
    | none => simp
    | some t => simp [couper_eq_self_iff]

/-- The columns keep the values as they are exactly when they hold them. -/
theorem profilGarde_eq_iff {email : String} {adressePostale numTel : Option String} :
    profilGarde row email adressePostale numTel = profil row email adressePostale numTel ↔
      TientEnColonnes row email adressePostale numTel := by
  constructor
  · intro h
    have hemail := congrArg UtilisateurRow.email h
    have hadresse := congrArg UtilisateurRow.adressePostale h
    have hnumTel := congrArg UtilisateurRow.numTel h
    exact ⟨garde_couper_eq_iff.mp hemail, garde_map_eq_iff.mp hadresse,
      garde_map_eq_iff.mp hnumTel⟩
  · intro h
    rw [profilGarde, garde_couper_eq_iff.mpr h.email, garde_map_eq_iff.mpr h.adressePostale,
      garde_map_eq_iff.mpr h.numTel]

end Statement

/-! ### What `updateMe` does -/

/-- The conflict `updateMe` reports: the email of the body is not identical to the one of the
account, and `findOneBy` finds an account for it. -/
def Conflit (s : Tables) (row : UtilisateurRow) (data : Json) : Prop :=
  ((data.get "email").isset && !(data.get "email").identical row.email) = true ∧
    ∃ r ∈ s.utilisateur.rows, (data.get "email").criteria.any (s.memeEmail r.email) = true

/-- The answer to a conflict. -/
def reponseConflit : Reponse := .json 409 "Cet email est déjà utilisé par un autre compte."

section UpdateMe

variable {s : Tables} {row : UtilisateurRow} {data : Json} {email : String}
  {adressePostale numTel : Option String}

/-- The three values are determined by the body. -/
theorem UserController.Decide.unique (h : Decide s row data email adressePostale numTel)
    {email' : String} {adressePostale' numTel' : Option String}
    (h' : Decide s row data email' adressePostale' numTel') :
    email' = email ∧ adressePostale' = adressePostale ∧ numTel' = numTel := by
  refine ⟨?_, ?_, ?_⟩
  · have hemail := h.email
    have hemail' := h'.email
    split_ifs at hemail hemail'
    · exact Option.some.inj (hemail'.1.symm.trans hemail.1)
    · rw [hemail, hemail']
  · exact Option.some.inj (h'.adressePostale.symm.trans h.adressePostale)
  · exact Option.some.inj (h'.numTel.symm.trans h.numTel)

/-- What `updateMe` can do, for the account `row`. -/
inductive Issue (s : Tables) (row : UtilisateurRow) (data : Json) : Tables × Reponse → Prop
  | conflit (h : Conflit s row data) : Issue s row data (s, reponseConflit)
  | enregistre {email : String} {adressePostale numTel : Option String} {rep : Reponse}
      (h : ¬ Conflit s row data) (hdecide : Decide s row data email adressePostale numTel)
      (hok : Enregistrable s row email adressePostale numTel) (hrep : rep.status = 200) :
      Issue s row data (avecProfil s row email adressePostale numTel, rep)
  | erreur {rep : Reponse} (h : ¬ Conflit s row data)
      (hnone : ¬ ∃ email adressePostale numTel, Decide s row data email adressePostale numTel ∧
        Enregistrable s row email adressePostale numTel)
      (hrep : rep.status ≠ 200 ∧ rep.status ≠ 409) : Issue s row data (s, rep)

/-- The end of `updateMe`, with the email it has decided on. -/
theorem issue_updateMeSuite (hrow : s.utilisateur.find row.id = some row)
    (hconflit : ¬ Conflit s row data) (hdecide : ∀ adressePostale numTel,
      champ data "adressePostale" row.adressePostale = some adressePostale →
      champ data "numTel" row.numTel = some numTel →
      Decide s row data email adressePostale numTel) :
    Issue s row data ((updateMeSuite row data email).alone s) := by
  unfold updateMeSuite
  split
  · next adressePostale numTel ha ht =>
    have hdecide := hdecide adressePostale numTel ha ht
    have hexec := exec_profil hrow email adressePostale numTel
    simp only [save_bind]
    by_cases hok : Enregistrable s row email adressePostale numTel
    · rw [if_pos hok] at hexec
      have hcommit : commit [.updateUtilisateur row.id row { row.toEntity with
          email := some email, adressePostale := adressePostale, numTel := numTel }] s
            = some (avecProfil s row email adressePostale numTel) := by
        rw [commit, show Database.exec _ s = _ from hexec]
        rfl
      rw [alone_flush_some hcommit]
      exact .enregistre hconflit hdecide hok rfl
    · rw [if_neg hok] at hexec
      have hcommit : commit [.updateUtilisateur row.id row { row.toEntity with
          email := some email, adressePostale := adressePostale, numTel := numTel }] s = none := by
        rw [commit, show Database.exec _ s = _ from hexec]
        rfl
      rw [alone_flush_none hcommit]
      refine .erreur hconflit ?_ ⟨by simp [apresFlush, Reponse.status],
        by simp [apresFlush, Reponse.status]⟩
      rintro ⟨email', a', t', hdecide', hok'⟩
      obtain ⟨rfl, rfl, rfl⟩ := hdecide.unique hdecide'
      exact hok hok'
  · next hnone =>
    refine .erreur hconflit ?_ ⟨by decide, by decide⟩
    rintro ⟨email', a', t', hdecide', -⟩
    exact hnone a' t' hdecide'.adressePostale hdecide'.numTel

/-- **`updateMe`** of an account does one of the three. -/
theorem issue_updateMe {user : ℕ} (hrow : s.utilisateur.find user = some row) (data : Json) :
    Issue s row data ((updateMe user data).alone s) := by
  obtain rfl : row.id = user := Table.key_of_find hrow
  unfold updateMe
  simp only [read_bind, alone_query, hrow]
  split
  · -- a body that is not JSON has no fields
    refine .erreur ?_ ?_ ⟨by decide, by decide⟩
    · rintro ⟨hset, -⟩
      exact absurd hset (by simp [Json.get, Json.isset])
    · rintro ⟨email, a, t, hdecide, -⟩
      exact hdecide.donnees rfl
  next hnull =>
  split_ifs with hset
  · simp only [alone_query]
    split_ifs with hexist
    · rw [List.find?_isSome] at hexist
      exact .conflit ⟨hset, hexist⟩
    have hfree : ∀ r ∈ s.utilisateur.rows,
        (data.get "email").criteria.any (s.memeEmail r.email) = false := by
      rw [Option.not_isSome_iff_eq_none, List.find?_eq_none] at hexist
      exact fun r hr => Bool.not_eq_true _ ▸ hexist r hr
    have hconflit : ¬ Conflit s row data := by
      rintro ⟨-, r, hr, hmatch⟩
      rw [hfree r hr] at hmatch
      cases hmatch
    split
    · next hparam =>
      -- an array that no account matches is refused by the setter
      refine .erreur hconflit ?_ ⟨by decide, by decide⟩
      rintro ⟨email, a, t, hdecide, -⟩
      have hemail := hdecide.email
      rw [if_pos hset, hparam] at hemail
      cases hemail.1
    · next email hparam =>
      refine issue_updateMeSuite hrow hconflit fun _ _ ha ht => ⟨hnull, ?_, ha, ht⟩
      rw [if_pos hset]
      exact ⟨hparam, hfree⟩
  · refine issue_updateMeSuite hrow (fun hconflit => hset hconflit.1)
      fun _ _ ha ht => ⟨hnull, ?_, ha, ht⟩
    rw [if_neg hset]

end UpdateMe

/-! ### All or nothing -/

/-- The value a field has afterwards: that of the body, as a string, when its key is present and
not null, and the old one otherwise. -/
def Prend (data : Json) (key : String) (ancien nouveau : Option String) : Prop :=
  if (data.get key).isset then
    ∃ t, (data.get key).toStringParam = some t ∧ nouveau = some t
  else nouveau = ancien

theorem prend_of_champ {data : Json} {key : String} {ancien nouveau : Option String}
    (h : champ data key ancien = some nouveau) : Prend data key ancien nouveau := by
  unfold champ at h
  unfold Prend
  split_ifs at h ⊢
  · obtain ⟨t, ht, rfl⟩ := Option.map_eq_some_iff.mp h
    exact ⟨t, ht, rfl⟩
  · exact (Option.some.inj h).symm

theorem UserController.Decide.prend_email {s : Tables} {row : UtilisateurRow} {data : Json}
    {email : String} {adressePostale numTel : Option String}
    (h : Decide s row data email adressePostale numTel) :
    Prend data "email" (some row.email) (some email) := by
  have hemail := h.email
  unfold Prend
  by_cases hset : (data.get "email").isset = true
  · rw [if_pos hset]
    refine ⟨email, ?_, rfl⟩
    split_ifs at hemail with hdiffers
    · exact hemail.1
    · -- the body has the email of the account
      have hsame : (data.get "email").identical row.email = true := by simpa [hset] using hdiffers
      rw [hemail]
      cases hv : data.get "email" <;> simp_all [Json.identical, Json.toStringParam]
  · rw [if_neg hset]
    rw [if_neg (by simp [hset])] at hemail
    rw [hemail]

theorem Prend.unique {data : Json} {key : String} {ancien nouveau nouveau' : Option String}
    (h : Prend data key ancien nouveau) (h' : Prend data key ancien nouveau') :
    nouveau' = nouveau := by
  unfold Prend at h h'
  split_ifs at h h'
  · obtain ⟨t, ht, rfl⟩ := h
    obtain ⟨t', ht', rfl⟩ := h'
    exact ht'.symm.trans ht
  · exact h'.trans h.symm

/-- The account has the three values that the body gives, or its old ones; its other fields are
unchanged, and so is everything else in the tables. -/
def MisAJour (s : Tables) (row : UtilisateurRow) (data : Json) (s' : Tables) : Prop :=
  ∃ email adressePostale numTel,
    s' = { s with
      utilisateur := s.utilisateur.update row.id fun _ => profil row email adressePostale numTel } ∧
    s'.utilisateur.find row.id
      = some { row with email := email, adressePostale := adressePostale, numTel := numTel } ∧
    Prend data "email" (some row.email) (some email) ∧
    Prend data "adressePostale" row.adressePostale adressePostale ∧
    Prend data "numTel" row.numTel numTel

/-- With an answer other than 200 the tables are unchanged, with 200 the account is updated. -/
structure ToutOuRien (s : Tables) (row : UtilisateurRow) (data : Json) (out : Tables × Reponse) :
    Prop where
  refus : out.2.status ≠ 200 → out.1 = s
  succes : out.2.status = 200 → MisAJour s row data out.1

/-- If the update is accepted, its values are those of the account or short enough for their
columns: what is too much could only be spaces. -/
def SansCoupe (s : Tables) (row : UtilisateurRow) (data : Json) : Prop :=
  ∀ email adressePostale numTel, Decide s row data email adressePostale numTel →
    Enregistrable s row email adressePostale numTel →
      TientEnColonnes row email adressePostale numTel

/-- The values decided on are those the body gives. -/
theorem MisAJour.of_decide {s : Tables} {row : UtilisateurRow} {data : Json} {email : String}
    {adressePostale numTel : Option String} (hrow : s.utilisateur.find row.id = some row)
    (hdecide : Decide s row data email adressePostale numTel)
    (h : TientEnColonnes row email adressePostale numTel) :
    MisAJour s row data (avecProfil s row email adressePostale numTel) := by
  have hgarde := profilGarde_eq_iff.mpr h
  refine ⟨email, adressePostale, numTel, ?_, ?_, hdecide.prend_email,
    prend_of_champ hdecide.adressePostale, prend_of_champ hdecide.numTel⟩
  · rw [avecProfil, hgarde]
  · rw [find_avecProfil hrow, hgarde]
    rfl

/-- **All or nothing.**  For every account and every body: that an answer other than 200 leaves the
tables unchanged, and that an answer 200 has given the account the three values of the body, or its
old ones, and changed nothing else, holds exactly when the update does not store a value too long
for its column, less the spaces that are too much. -/
theorem profile_update_atomic_iff (s : Tables) (row : UtilisateurRow)
    (hrow : s.utilisateur.find row.id = some row) (data : Json) :
    ToutOuRien s row data ((updateMe row.id data).alone s) ↔ SansCoupe s row data := by
  have hissue := issue_updateMe hrow data
  generalize (updateMe row.id data).alone s = out at hissue ⊢
  cases hissue with
  | conflit h =>
    refine ⟨fun _ email adressePostale numTel hdecide _ => ?_, fun _ => ⟨fun _ => rfl, fun h200 =>
      absurd h200 (by simp [reponseConflit, Reponse.status])⟩⟩
    -- no email is decided on
    obtain ⟨hset, r, hr, hmatch⟩ := h
    have hemail := hdecide.email
    rw [if_pos hset] at hemail
    exact absurd (hmatch.symm.trans (hemail.2 r hr)) (by decide)
  | @enregistre email adressePostale numTel rep h hdecide hok hrep =>
    constructor
    · intro hexact email' adressePostale' numTel' hdecide' hok'
      obtain ⟨rfl, rfl, rfl⟩ := hdecide.unique hdecide'
      obtain ⟨e, a, t, -, hfind, he, ha, ht⟩ := hexact.succes hrep
      -- the body determines what the account should have
      obtain rfl := Option.some.inj (hdecide.prend_email.unique he)
      obtain rfl := (prend_of_champ hdecide.adressePostale).unique ha
      obtain rfl := (prend_of_champ hdecide.numTel).unique ht
      rw [find_avecProfil hrow] at hfind
      exact profilGarde_eq_iff.mp (Option.some.inj hfind)
    · intro hsans
      exact ⟨fun hne => absurd hrep hne,
        fun _ => .of_decide hrow hdecide (hsans _ _ _ hdecide hok)⟩
  | erreur h hnone hrep =>
    exact ⟨fun _ email adressePostale numTel hdecide hok => absurd ⟨_, _, _, hdecide, hok⟩ hnone,
      fun _ => ⟨fun _ => rfl, fun h200 => absurd h200 hrep.1⟩⟩

/-- A member changes the phone number, and sends keys that are not read. -/
theorem profile_update_atomic_phone :
    let s := Exemple.tables .empty .empty
    let row := Exemple.compte 5 "adherent0@articles.fr" ["ROLE_USER"] "password"
    let data : Json := .obj [("numTel", .str "0637809970"), ("roles", .arr [.str "ROLE_ADMIN"])]
    ((updateMe 5 data).answer s).status = 200 ∧
      ToutOuRien s row data ((updateMe row.id data).alone s) := by
  intro s row data
  refine ⟨by decide, (profile_update_atomic_iff s row (by decide) data).mpr ?_⟩
  intro email adressePostale numTel hdecide _
  refine ⟨Or.inl hdecide.email, Or.inl (Option.some.inj hdecide.adressePostale).symm, Or.inr ?_⟩
  intro t ht
  have hnumTel : some "0637809970" = numTel := Option.some.inj hdecide.numTel
  obtain rfl := Option.some.inj (hnumTel.trans ht)
  decide

/-- A member gives a phone number followed by eleven spaces: the answer is 200 and shows all of it,
and the account has it with ten. -/
theorem profile_update_cut_phone :
    let s := Exemple.tables .empty .empty
    let row := Exemple.compte 5 "adherent0@articles.fr" ["ROLE_USER"] "password"
    let data : Json := .obj [("numTel", .str "0637809970           ")]
    (updateMe 5 data).answer s
        = .jsonUtilisateur { row with numTel := some "0637809970           " }.toEntity ∧
      ((updateMe 5 data).after s).utilisateur.find 5
        = some { row with numTel := some "0637809970          " } ∧
      ¬ ToutOuRien s row data ((updateMe 5 data).alone s) := by
  intro s row data
  have hanswer : (updateMe 5 data).answer s
      = .jsonUtilisateur { row with numTel := some "0637809970           " }.toEntity := by decide
  have hfind : ((updateMe 5 data).after s).utilisateur.find 5
      = some { row with numTel := some "0637809970          " } := by decide
  refine ⟨hanswer, hfind, fun h => ?_⟩
  obtain ⟨email, adressePostale, numTel, -, hstored, -, -, t, ht, rfl⟩ :=
    h.succes (congrArg Reponse.status hanswer)
  obtain rfl := Option.some.inj ht
  have hnumTel : some "0637809970          " = some "0637809970           " :=
    congrArg UtilisateurRow.numTel (Option.some.inj (hfind.symm.trans hstored))
  exact absurd hnumTel (by decide)

/-! ### Conflicts -/

/-- An account other than `row` has the email, for the database. -/
def Pris (s : Tables) (row : UtilisateurRow) (email : String) : Prop :=
  ∃ r ∈ s.utilisateur.rows, r.id ≠ row.id ∧ s.memeEmail r.email email = true

/-- A conflict is reported exactly when another account has the email; otherwise the account gets it
and no two accounts have the same. -/
structure ConflitExact (s : Tables) (row : UtilisateurRow) (email : String)
    (out : Tables × Reponse) : Prop where
  conflit : out.2.status = 409 ↔ Pris s row email
  sinon : ¬ Pris s row email →
    (∃ r, out.1.utilisateur.find row.id = some r ∧ r.email = email) ∧ EmailsUniques out.1

/-- The email is the one the account has, letter by letter; or the database does not take it for
that one and another account has it, or it is short enough for its column and the update goes
through. -/
def EmailApplicable (s : Tables) (row : UtilisateurRow) (data : Json) (email : String) : Prop :=
  email = row.email ∨ s.memeEmail row.email email = false ∧ (Pris s row email ∨
    email.length ≤ 180 ∧ ∃ adressePostale numTel,
      champ data "adressePostale" row.adressePostale = some adressePostale ∧
        champ data "numTel" row.numTel = some numTel ∧
        (profil row email adressePostale numTel).toEntity.fits = true)

section Email

variable {s : Tables} {row : UtilisateurRow} {data : Json} {email : String}

theorem conflit_iff (he : data.get "email" = .str email) :
    Conflit s row data ↔
      email ≠ row.email ∧ ∃ r ∈ s.utilisateur.rows, s.memeEmail r.email email = true := by
  simp [Conflit, he, Json.isset, Json.identical, Json.criteria, Json.toStringParam]

/-- Where the own email is not meant, a conflict is one with another account. -/
theorem conflit_iff_pris (he : data.get "email" = .str email)
    (hown : s.memeEmail row.email email = false) (hrow : s.utilisateur.find row.id = some row) :
    Conflit s row data ↔ Pris s row email := by
  have hne : email ≠ row.email := by
    rintro rfl
    simp [Tables.memeEmail] at hown
  rw [conflit_iff he]
  constructor
  · rintro ⟨-, r, hr, hmeme⟩
    refine ⟨r, hr, fun hid => ?_, hmeme⟩
    obtain rfl : r = row := s.utilisateur.eq_of_key_eq hr (Table.mem_of_find hrow) hid
    rw [hown] at hmeme
    cases hmeme
  · rintro ⟨r, hr, -, hmeme⟩
    exact ⟨hne, r, hr, hmeme⟩

/-- Nobody else has what the database takes for the own email. -/
theorem not_pris_of_own (hs : EmailsUniques s) (hrow : s.utilisateur.find row.id = some row)
    (hown : s.memeEmail row.email email = true) : ¬ Pris s row email := by
  rintro ⟨r, hr, hid, hmeme⟩
  rw [memeEmail_comm] at hown
  exact hid (congrArg UtilisateurRow.id
    (hs r hr row (Table.mem_of_find hrow) (memeEmail_trans hmeme hown)))

/-- The string that `updateMe` decides on is that of the body. -/
theorem UserController.Decide.eq_of_str {email' : String} {adressePostale numTel : Option String}
    (h : Decide s row data email' adressePostale numTel) (he : data.get "email" = .str email) :
    email' = email := by
  obtain ⟨t, ht, htt⟩ : ∃ t, (data.get "email").toStringParam = some t ∧ some email' = some t := by
    have hprend := h.prend_email
    rw [Prend, he] at hprend
    rw [he]
    exact hprend
  rw [he] at ht
  exact (Option.some.inj htt).trans (Option.some.inj ht).symm

theorem decide_of_not_conflit {adressePostale numTel : Option String}
    (he : data.get "email" = .str email) (hconflit : ¬ Conflit s row data)
    (ha : champ data "adressePostale" row.adressePostale = some adressePostale)
    (ht : champ data "numTel" row.numTel = some numTel) :
    Decide s row data email adressePostale numTel := by
  refine ⟨?_, ?_, ha, ht⟩
  · rintro rfl
    simp [Json.get] at he
  · split_ifs with hset
    · refine ⟨by rw [he]; rfl, fun r hr => ?_⟩
      by_contra hmatch
      exact hconflit ⟨hset, r, hr, Bool.not_eq_false _ ▸ hmatch⟩
    · simpa [he, Json.isset, Json.identical] using hset

variable {out : Tables × Reponse}

/-- The own email, letter by letter: no conflict, and whatever becomes of the request the account
has it afterwards. -/
theorem conflitExact_of_own (hs : EmailsUniques s) (hrow : s.utilisateur.find row.id = some row)
    (he : data.get "email" = .str row.email) (hissue : Issue s row data out)
    (huniques : EmailsUniques out.1) : ConflitExact s row row.email out := by
  have hpris := not_pris_of_own hs hrow (beq_self_eq_true (s.emailKey row.email))
  cases hissue with
  | conflit h => exact absurd rfl ((conflit_iff he).mp h).1
  | enregistre h hdecide hok hrep =>
    refine ⟨⟨fun h409 => ?_, fun h => absurd h hpris⟩, fun _ => ?_⟩
    · rw [hrep] at h409
      cases h409
    · obtain rfl := hdecide.eq_of_str he
      exact ⟨⟨_, find_avecProfil hrow _ _ _, garde_self _ _⟩, huniques⟩
  | erreur h hnone hrep =>
    exact ⟨⟨fun h409 => absurd h409 hrep.2, fun h => absurd h hpris⟩,
      fun _ => ⟨⟨row, hrow, rfl⟩, huniques⟩⟩

/-- Another email than the own one, which another account has or the database takes. -/
theorem conflitExact_of_applicable (hrow : s.utilisateur.find row.id = some row)
    (he : data.get "email" = .str email) (hown : s.memeEmail row.email email = false)
    (happ : Pris s row email ∨ email.length ≤ 180 ∧ ∃ adressePostale numTel,
      champ data "adressePostale" row.adressePostale = some adressePostale ∧
        champ data "numTel" row.numTel = some numTel ∧
        (profil row email adressePostale numTel).toEntity.fits = true)
    (hissue : Issue s row data out) (huniques : EmailsUniques out.1) :
    ConflitExact s row email out := by
  have hiff := conflit_iff_pris he hown hrow
  cases hissue with
  | conflit h => exact ⟨⟨fun _ => hiff.mp h, fun _ => rfl⟩, fun hfree => absurd (hiff.mp h) hfree⟩
  | enregistre h hdecide hok hrep =>
    refine ⟨⟨fun h409 => ?_, fun hpris => absurd (hiff.mpr hpris) h⟩, fun hpris => ?_⟩
    · rw [hrep] at h409
      cases h409
    · obtain rfl := hdecide.eq_of_str he
      obtain ⟨hlength, -⟩ := happ.resolve_left hpris
      exact ⟨⟨_, find_avecProfil hrow _ _ _, garde_couper_eq_iff.mpr (Or.inr hlength)⟩, huniques⟩
  | erreur h hnone hrep =>
    -- nothing stands in the way of the update, so it is not refused
    obtain ⟨hlength, adressePostale, numTel, ha, ht, hfits⟩ := happ.resolve_left fun hpris =>
      h (hiff.mpr hpris)
    refine absurd ⟨email, adressePostale, numTel, decide_of_not_conflit he h ha ht, hfits, ?_⟩ hnone
    rw [couper_of_length_le hlength]
    refine Or.inr ((emailLibre_iff s _ _).mpr fun r hr hid => ?_)
    by_contra hmeme
    exact h (hiff.mpr ⟨r, hr, hid, Bool.not_eq_false _ ▸ hmeme⟩)

theorem applicable_of_conflitExact (hs : EmailsUniques s)
    (hrow : s.utilisateur.find row.id = some row) (he : data.get "email" = .str email)
    (hissue : Issue s row data out) (hexact : ConflitExact s row email out) :
    EmailApplicable s row data email := by
  by_cases hsame : email = row.email
  · exact Or.inl hsame
  right
  have hown : s.memeEmail row.email email = false := by
    by_contra hmeme
    have hmeme : s.memeEmail row.email email = true := Bool.not_eq_false _ ▸ hmeme
    -- the query finds the account itself
    have hconflit := (conflit_iff he).mpr ⟨hsame, row, Table.mem_of_find hrow, hmeme⟩
    cases hissue with
    | conflit _ => exact not_pris_of_own hs hrow hmeme (hexact.conflit.mp rfl)
    | enregistre h _ _ _ => exact h hconflit
    | erreur h _ _ => exact h hconflit
  refine ⟨hown, ?_⟩
  by_cases hpris : Pris s row email
  · exact Or.inl hpris
  right
  obtain ⟨⟨r, hfind, hemail⟩, -⟩ := hexact.sinon hpris
  cases hissue with
  | conflit h => exact absurd ((conflit_iff_pris he hown hrow).mp h) hpris
  | enregistre h hdecide hok hrep =>
    obtain rfl := hdecide.eq_of_str he
    rw [find_avecProfil hrow] at hfind
    obtain rfl := Option.some.inj hfind
    exact ⟨(garde_couper_eq_iff.mp hemail).resolve_left hsame, _, _, hdecide.adressePostale,
      hdecide.numTel, hok.1⟩
  | erreur h hnone hrep =>
    -- the account has kept its email
    obtain rfl : row = r := Option.some.inj (hrow.symm.trans hfind)
    exact absurd hemail.symm hsame

end Email

/-- **Email conflicts.**  In every table with distinct emails, for every account and every body with
a string as email: a conflict is reported exactly when another account has the email, and otherwise
the account gets it and the emails stay distinct, if and only if the string is the own email letter
by letter, or is not another spelling of it and either another account has it, or its column holds
it and the update has nothing else against it. -/
theorem email_conflict_iff (s : Tables) (row : UtilisateurRow)
    (hrow : s.utilisateur.find row.id = some row) (hs : EmailsUniques s) (data : Json)
    (email : String) (he : data.get "email" = .str email) :
    ConflitExact s row email ((updateMe row.id data).alone s) ↔
      EmailApplicable s row data email := by
  have hissue := issue_updateMe hrow data
  -- the services of the packages have no part in this request
  have huniques : EmailsUniques ((updateMe row.id data).alone s).1 :=
    emailsUniques_apres ⟨fun _ _ => none, fun _ => false, fun _ => false, nofun, nofun⟩ hs
      (.updateMe row.id data)
  constructor
  · exact applicable_of_conflitExact hs hrow he hissue
  · rintro (rfl | ⟨hown, happ⟩)
    · exact conflitExact_of_own hs hrow he hissue huniques
    · exact conflitExact_of_applicable hrow he hown happ hissue huniques

/-- A member takes an email that nobody has. -/
theorem email_conflict_free_email :
    let s := Exemple.tables .empty .empty
    let row := Exemple.compte 5 "adherent0@articles.fr" ["ROLE_USER"] "password"
    let data : Json := .obj [("email", .str "lucy@articles.fr")]
    ConflitExact s row "lucy@articles.fr" ((updateMe row.id data).alone s) := by
  intro s row data
  refine (email_conflict_iff s row (by decide) emailsUniques_exemple data _ rfl).mpr (Or.inr ?_)
  exact ⟨by decide, Or.inr ⟨by decide, none, none, rfl, rfl, by decide⟩⟩

/-- A member writes the own email with a capital letter: the query finds the account itself. -/
theorem email_conflict_with_oneself :
    let s := { Exemple.tables .empty .empty with
      emailKey := fun e => String.ofList (e.toList.map Char.toLower) }
    let row := Exemple.compte 5 "adherent0@articles.fr" ["ROLE_USER"] "password"
    let data : Json := .obj [("email", .str "Adherent0@articles.fr")]
    EmailsUniques s ∧ s.utilisateur.find 5 = some row ∧ ¬ Pris s row "Adherent0@articles.fr" ∧
      (updateMe 5 data).answer s = reponseConflit ∧
      ¬ ConflitExact s row "Adherent0@articles.fr" ((updateMe 5 data).alone s) := by
  intro s row data
  have hs : EmailsUniques s := by
    unfold EmailsUniques
    decide
  have hrow : s.utilisateur.find row.id = some row := by decide
  have hpris : ¬ Pris s row "Adherent0@articles.fr" := not_pris_of_own hs hrow (by decide)
  have hanswer : (updateMe 5 data).answer s = reponseConflit := by decide
  refine ⟨hs, hrow, hpris, hanswer, fun h => hpris (h.conflit.mp ?_)⟩
  exact congrArg Reponse.status hanswer

end Biblio
