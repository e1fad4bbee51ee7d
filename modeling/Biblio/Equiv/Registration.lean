import Biblio.Equiv.Statement

/-!
# Registration

`register` answers 400 when one of its four fields is missing or `empty()`.  Every other body ends
in an exception: the entity it builds has no date of membership and the column takes no null, so the
flush fails whatever the fields are (`exec_nouveau`), and a field of another type or a password that
the hasher refuses throws before that.

So a registration is as it should be (`InscriptionCorrecte`) exactly when a field is missing
(`registration_correct_iff`): no body that should be accepted is.
-/

namespace Biblio

open Prog

/-- A body that should be accepted: four strings that are not `empty()` and fit their columns, with
the password hashed, and an email that no account has. -/
structure Inscriptible (services : Services) (s : Tables) (data : Json) (sel : ℕ)
    (email nom prenom hash : String) : Prop where
  champEmail : data.get "email" = .str email
  champNom : data.get "nom" = .str nom
  champPrenom : data.get "prenom" = .str prenom
  champPassword : ∃ plain, data.get "password" = .str plain ∧
    services.hashPassword plain sel = some hash
  nonVide : ∀ key ∈ ["email", "password", "nom", "prenom"], (data.get key).empty = false
  fits : email.length ≤ 180 ∧ nom.length ≤ 100 ∧ prenom.length ≤ 100 ∧ hash.length ≤ 255
  libre : ∀ r ∈ s.utilisateur.rows, s.memeEmail r.email email = false

/-- The answer 201, and exactly one new row: the account without a role of the staff. -/
def Inscrit (s : Tables) (email nom prenom hash : String) (out : Tables × Reponse) : Prop :=
  out.2.status = 201 ∧ ∃ row : UtilisateurRow,
    out.1 = { s with utilisateur := s.utilisateur.insert row } ∧ row.email = email ∧
      row.nom = some nom ∧ row.prenom = some prenom ∧ row.password = hash ∧
      inArray "ROLE_ADMIN" (getRoles row.roles) = false ∧
      inArray "ROLE_BIBLIO" (getRoles row.roles) = false

/-- A registration is as it should be: a body that should be accepted creates its account, and every
other one gets an error of the client and changes nothing. -/
def InscriptionCorrecte (services : Services) (s : Tables) (data : Json) (sel : ℕ) : Prop :=
  let out := (RegisterController.register services data sel).alone s
  (∀ email nom prenom hash, Inscriptible services s data sel email nom prenom hash →
    Inscrit s email nom prenom hash out) ∧
  ((¬ ∃ email nom prenom hash, Inscriptible services s data sel email nom prenom hash) →
    400 ≤ out.2.status ∧ out.2.status < 500 ∧ out.1 = s)

/-- One of the four fields is missing or `empty()`. -/
def ChampManquant (data : Json) : Prop :=
  ∃ key ∈ ["email", "password", "nom", "prenom"], (data.get key).empty = true

theorem champManquant_iff (data : Json) : ChampManquant data ↔
    ((data.get "email").empty || (data.get "password").empty || (data.get "nom").empty
      || (data.get "prenom").empty) = true := by
  simp [ChampManquant, or_assoc]

/-- The entity of `register` has no date of membership, and is never stored. -/
theorem exec_nouveau (s : Tables) (email nom prenom password : String) :
    exec (.insertUtilisateur (RegisterController.nouveau email nom prenom password)) s = none :=
  rfl

/-- With a field missing, the answer is 400. -/
theorem alone_register_of_manquant (services : Services) (s : Tables) {data : Json} (sel : ℕ)
    (h : ChampManquant data) : (RegisterController.register services data sel).alone s
      = (s, .json 400 "Champs obligatoires manquants (email, password, nom, prenom)") := by
  unfold RegisterController.register
  rw [if_pos ((champManquant_iff data).mp h)]
  rfl

/-- With all fields, the request ends in an exception. -/
theorem status_register_of_complet (services : Services) (s : Tables) {data : Json} (sel : ℕ)
    (h : ¬ ChampManquant data) :
    ((RegisterController.register services data sel).alone s).2.status = 500 := by
  unfold RegisterController.register
  rw [if_neg (fun hvide => h ((champManquant_iff data).mpr hvide))]
  split
  · next email nom prenom plain _ _ _ _ =>
    split
    · rfl
    · next hash _ =>
      have hnone : commit [.insertUtilisateur
          (RegisterController.nouveau email nom prenom hash)] s = none := by
        rw [commit, show Database.exec _ s = none from exec_nouveau s email nom prenom hash]
        rfl
      simp only [save_bind]
      rw [alone_flush_none hnone]
      rfl
  · rfl

/-- **Registration.**  On every table and every body, a registration is as it should be exactly when
one of the four fields is missing or `empty()`. -/
theorem registration_correct_iff (services : Services) (s : Tables) (data : Json) (sel : ℕ) :
    InscriptionCorrecte services s data sel ↔ ChampManquant data := by
  constructor
  · intro hcorrect
    by_contra hcomplet
    have hstatus := status_register_of_complet services s sel hcomplet
    -- the answer 500 is neither that of an accepted body nor that of a refused one
    by_cases hok : ∃ email nom prenom hash,
        Inscriptible services s data sel email nom prenom hash
    · obtain ⟨email, nom, prenom, hash, hok⟩ := hok
      have h201 := (hcorrect.1 _ _ _ _ hok).1
      omega
    · obtain ⟨-, hlt, -⟩ := hcorrect.2 hok
      omega
  · intro hmanquant
    have halone := alone_register_of_manquant services s sel hmanquant
    unfold InscriptionCorrecte
    rw [halone]
    refine ⟨fun email nom prenom hash hok => ?_, fun _ => ⟨?_, ?_, rfl⟩⟩
    · obtain ⟨key, hkey, hempty⟩ := hmanquant
      rw [hok.nonVide key hkey] at hempty
      cases hempty
    · show 400 ≤ 400
      omega
    · show 400 < 500
      omega

/-- A complete registration: nothing is wrong with it, and it ends in a 500. -/
theorem registration_of_new_member_fails :
    let s := Exemple.tables .empty .empty
    let data : Json := .obj [("email", .str "lucy@articles.fr"), ("password", .str "password"),
      ("nom", .str "Evrard"), ("prenom", .str "Lucy")]
    (RegisterController.register Exemple.services data 0).answer s
        = .exception 500 "Integrity constraint violation" ∧
      (∃ hash, Inscriptible Exemple.services s data 0 "lucy@articles.fr" "Evrard" "Lucy" hash) ∧
      ¬ InscriptionCorrecte Exemple.services s data 0 := by
  intro s data
  have hok : ∃ hash, Inscriptible Exemple.services s data 0 "lucy@articles.fr" "Evrard" "Lucy"
      hash :=
    ⟨_, rfl, rfl, rfl, ⟨"password", rfl, rfl⟩, by decide, by decide, by decide⟩
  refine ⟨by decide, hok, fun h => ?_⟩
  obtain ⟨hash, hok⟩ := hok
  exact absurd (h.1 _ _ _ _ hok).1 (by decide)

end Biblio
