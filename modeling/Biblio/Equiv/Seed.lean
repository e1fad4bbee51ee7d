import Biblio.Fixtures
import Biblio.Equiv.LoanDates
import Biblio.Equiv.LoanRules

/-!
# The rules of lending in the seeded database

The fixtures persist their loans without the validator and without `persistEntity`, so that nothing
but the draws decides who has borrowed what.  `load` itself cannot fail (`load_eq`): the drawn texts
fit their columns, every link and every loan refers to a row that was inserted before it, and the
emails are distinct.

`seeded_rules_iff`: the tables keep the rules exactly if, among the loans drawn without a return
date, no two are of one book and no six are of one member.  The dates are always in order.
-/

namespace Biblio

open AppFixtures

/-! ### Catalogue -/

/-- The address of a picture fits its column. -/
theorem length_picsum {seed taille : String} {i : ℕ} (hi : i < 20) (hseed : seed.length ≤ 10)
    (htaille : taille.length ≤ 10) : (picsum seed i taille).length ≤ 255 := by
  have hdigits : ∀ i < 20, (toString i).length ≤ 2 := by decide
  have hi := hdigits i hi
  have hsite : "https://picsum.photos/seed/".length = 27 := by decide
  have hslash : "/".length = 1 := by decide
  unfold picsum
  -- else `simp` runs `toString`
  generalize toString i = chiffres at hi
  simp only [String.length_append]
  omega

/-- The categories get consecutive keys. -/
theorem creerCategories_eq (t : Tirages) (b : Base) :
    ∃ categorie, creerCategories t b
        = some (Vector.ofFn fun i => b.categorie.next + i, { b with categorie := categorie }) ∧
      ∀ i : Fin 5, (categorie.find (b.categorie.next + i)).isSome = true := by
  have hfits : ∀ i : Fin 5, fits 100 (some (nomsCategories.get i)) = true := by decide
  refine ⟨b.categorie.insertAll (List.ofFn fun i =>
    ⟨0, couper 100 (nomsCategories.get i), some (t.categories i)⟩), ?_,
    b.categorie.isSome_find_ofFn _⟩
  refine Load.ofFnM_insertAll (fun categorie => { b with categorie := categorie }) _ b.categorie
    fun i categorie _ => ?_
  exact Load.insert_eq (if_pos (hfits i))

/-- The authors get consecutive keys. -/
theorem creerAuteurs_eq (t : Tirages) (b : Base) :
    ∃ auteur, creerAuteurs t b
        = some (Vector.ofFn fun i => b.auteur.next + i, { b with auteur := auteur }) ∧
      ∀ i : Fin 5, (auteur.find (b.auteur.next + i)).isSome = true := by
  have hphoto : ∀ i : Fin 5, (picsum "auteur" i "200/300").length ≤ 255 := fun i =>
    length_picsum (by omega) (by decide) (by decide)
  refine ⟨b.auteur.insertAll (List.ofFn fun i => ⟨0, (t.auteurs i).nom.1, (t.auteurs i).prenom.1,
    some (picsum "auteur" i "200/300"), some (t.auteurs i).description⟩), ?_,
    b.auteur.isSome_find_ofFn _⟩
  refine Load.ofFnM_insertAll (fun auteur => { b with auteur := auteur }) _ b.auteur
    fun i auteur _ => ?_
  refine Load.insert_eq (if_pos ?_)
  simp [Auteur.fits, fits_of_length_le, (t.auteurs i).nom.2, (t.auteurs i).prenom.2, hphoto i]

/-! ### Books -/

theorem length_ucfirst (s : String) : (ucfirst s).length = s.length := by
  unfold ucfirst
  split
  · rfl
  · next c cs heq =>
    rw [String.length_ofList, ← String.length_toList, heq, List.length_cons, List.length_cons]

/-- The links of a book to distinct rows, if it has no link to one of them yet. -/
theorem foldlM_inserer {f : Base → ℕ → Option Base} (put : Liens → Base)
    {hasLivre hasAutre : ℕ → Bool} {livre : ℕ}
    (hf : ∀ liens a, f (put liens) a = (liens.inserer hasLivre hasAutre livre a).map put)
    (hlivre : hasLivre livre = true) {autres : List ℕ} (hautres : ∀ a ∈ autres, hasAutre a = true)
    (hnodup : autres.Nodup) {liens : Liens} (hnew : ∀ a ∈ autres, (livre, a) ∉ liens) :
    autres.foldlM f (put liens) = some (put (liens ++ autres.map fun a => (livre, a))) := by
  induction autres generalizing liens with
  | nil =>
    rw [List.map_nil, List.append_nil]
    rfl
  | cons a autres ih =>
    obtain ⟨ha, hnodup⟩ := List.nodup_cons.mp hnodup
    have hstep : f (put liens) a = some (put (liens ++ [(livre, a)])) := by
      rw [hf, Liens.inserer, if_pos ⟨hlivre, hautres a (List.mem_cons_self ..),
        hnew a (List.mem_cons_self ..)⟩, Option.map_some]
    rw [List.foldlM_cons, hstep, Option.bind_eq_bind, Option.bind_some, ih, List.map_cons,
      List.append_assoc, List.singleton_append]
    · exact fun a' ha' => hautres a' (List.mem_cons_of_mem _ ha')
    · exact hnodup
    · intro a' ha' hmem
      rcases List.mem_append.mp hmem with hmem | hmem
      · exact hnew a' (List.mem_cons_of_mem _ ha') hmem
      · have heq : a' = a := congrArg Prod.snd (List.mem_singleton.mp hmem)
        exact ha (heq ▸ ha')

theorem foldlM_insertLivreAuteur {b : Base} {livre : ℕ} (hlivre : b.tables.hasLivre livre = true)
    {auteurs : List ℕ} (hauteurs : ∀ a ∈ auteurs, b.hasAuteur a = true) (hnodup : auteurs.Nodup)
    (hnew : ∀ a ∈ auteurs, (livre, a) ∉ b.livreAuteur) :
    auteurs.foldlM (fun b a => b.insertLivreAuteur livre a) b
      = some { b with livreAuteur := b.livreAuteur ++ auteurs.map fun a => (livre, a) } :=
  foldlM_inserer (fun liens => { b with livreAuteur := liens }) (fun _ _ => rfl) hlivre hauteurs
    hnodup hnew

theorem foldlM_insertLivreCategorie {b : Base} {livre : ℕ}
    (hlivre : b.tables.hasLivre livre = true) {categories : List ℕ}
    (hcategories : ∀ c ∈ categories, b.hasCategorie c = true) (hnodup : categories.Nodup)
    (hnew : ∀ c ∈ categories, (livre, c) ∉ b.livreCategorie) :
    categories.foldlM (fun b c => b.insertLivreCategorie livre c) b
      = some { b with
          livreCategorie := b.livreCategorie ++ categories.map fun c => (livre, c) } :=
  foldlM_inserer (fun liens => { b with livreCategorie := liens }) (fun _ _ => rfl) hlivre
    hcategories hnodup hnew

/-- The rows of the books. -/
def lignesLivres (t : Tirages) : Fin 20 → LivreRow := fun i =>
  ⟨0, couper 255 (ucfirst (t.livres i).mots.1), some (t.livres i).dateSortie,
    couper 50 (langues.get (t.livres i).langue), some (couper 255 (picsum "livre" i "300/400"))⟩

/-- The base with other books and links. -/
def Base.avecLivres (b : Base) (livre : Table LivreRow) (livreAuteur livreCategorie : Liens) :
    Base :=
  { b with
    tables := { b.tables with livre := livre }
    livreAuteur := livreAuteur
    livreCategorie := livreCategorie }

/-- One book, with links to rows that exist. -/
theorem execBase_insertLivre (t : Tirages) (i : Fin 20) (b : Base) {auteurs categories : List ℕ}
    (hauteurs : ∀ a ∈ auteurs, b.hasAuteur a = true) (hnodupA : auteurs.Nodup)
    (hcategories : ∀ c ∈ categories, b.hasCategorie c = true) (hnodupC : categories.Nodup)
    (hliensA : ∀ e ∈ b.livreAuteur, e.1 < b.tables.livre.next)
    (hliensC : ∀ e ∈ b.livreCategorie, e.1 < b.tables.livre.next) :
    execBase (.insertLivre (livre i (t.livres i)) auteurs categories) b
      = some (b.avecLivres (b.tables.livre.insert (lignesLivres t i))
          (b.livreAuteur ++ auteurs.map fun a => (b.tables.livre.next, a))
          (b.livreCategorie ++ categories.map fun c => (b.tables.livre.next, c))) := by
  have hlangue : ∀ k : Fin 3, (langues.get k).length ≤ 50 := by decide
  have hphoto : (picsum "livre" i "300/400").length ≤ 255 :=
    length_picsum i.isLt (by decide) (by decide)
  have hfits : (livre i (t.livres i)).fits = true := by
    simp [Livre.fits, livre, fits_of_length_le, length_ucfirst, (t.livres i).mots.2, hlangue,
      hphoto]
  have hexec : exec (.insertLivre (livre i (t.livres i))) b.tables
      = some { b.tables with livre := b.tables.livre.insert (lignesLivres t i) } := if_pos hfits
  -- the key is that of the new row, and the links of a new book are new
  have hlivre := b.tables.livre.isSome_find_next (lignesLivres t i)
  have hnew : ∀ liens : Liens, (∀ e ∈ liens, e.1 < b.tables.livre.next) →
      ∀ a, (b.tables.livre.next, a) ∉ liens :=
    fun liens hliens a hmem => Nat.lt_irrefl _ (hliens _ hmem)
  have hA := foldlM_insertLivreAuteur
    (b := b.avecLivres (b.tables.livre.insert (lignesLivres t i)) b.livreAuteur b.livreCategorie)
    hlivre hauteurs hnodupA fun a _ => hnew _ hliensA a
  have hC := foldlM_insertLivreCategorie
    (b := b.avecLivres (b.tables.livre.insert (lignesLivres t i))
      (b.livreAuteur ++ auteurs.map fun a => (b.tables.livre.next, a)) b.livreCategorie)
    hlivre hcategories hnodupC fun c _ => hnew _ hliensC c
  rw [execBase, hexec, Option.bind_eq_bind, Option.bind_some]
  exact (congrArg (Option.bind · _) hA).trans hC

theorem lt_of_mem_liens {liens : Liens} {next : ℕ} (hliens : ∀ e ∈ liens, e.1 < next)
    (autres : List ℕ) : ∀ e ∈ liens ++ autres.map fun a => (next, a), e.1 < next + 1 := by
  intro e he
  rcases List.mem_append.mp he with he | he
  · have hlt := hliens e he
    omega
  · obtain ⟨a, -, rfl⟩ := List.mem_map.mp he
    exact Nat.lt_succ_self next

/-- The state after the first `i` books: the links are those of books inserted so far. -/
def LivresCrees (t : Tirages) (b : Base) (i : ℕ) (b' : Base) : Prop :=
  ∃ livreAuteur livreCategorie, b' = b.avecLivres
      (b.tables.livre.insertAll ((List.ofFn (lignesLivres t)).take i)) livreAuteur livreCategorie ∧
    (∀ e ∈ livreAuteur, e.1 < b.tables.livre.next + i) ∧
    ∀ e ∈ livreCategorie, e.1 < b.tables.livre.next + i

theorem LivresCrees.step {t : Tirages} {b b' : Base} {i : Fin 20} (h : LivresCrees t b i b')
    {auteurs categories : List ℕ} (hauteurs : ∀ a ∈ auteurs, b.hasAuteur a = true)
    (hnodupA : auteurs.Nodup) (hcategories : ∀ c ∈ categories, b.hasCategorie c = true)
    (hnodupC : categories.Nodup) :
    ∃ b'', Load.insert (·.tables.livre.next)
        (execBase (.insertLivre (livre i (t.livres i)) auteurs categories)) b'
          = some (b.tables.livre.next + i, b'') ∧
      LivresCrees t b (i + 1) b'' := by
  obtain ⟨la, lc, rfl, hla, hlc⟩ := h
  have hnext := Table.next_insertAll b.tables.livre ((List.ofFn (lignesLivres t)).take i)
  rw [Load.length_take_ofFn] at hnext
  have hsucc := Table.insertAll_concat b.tables.livre ((List.ofFn (lignesLivres t)).take i)
    (lignesLivres t i)
  rw [← Load.take_succ_ofFn] at hsucc
  generalize b.tables.livre.insertAll ((List.ofFn (lignesLivres t)).take i) = livres
    at hnext hsucc ⊢
  rw [← hnext] at hla hlc
  refine ⟨b.avecLivres (livres.insert (lignesLivres t i))
      (la ++ auteurs.map fun a => (livres.next, a))
      (lc ++ categories.map fun c => (livres.next, c)), ?_, _, _, by rw [hsucc], ?_, ?_⟩
  · rw [← hnext]
    exact Load.insert_eq (execBase_insertLivre t i (b.avecLivres livres la lc) hauteurs hnodupA
      hcategories hnodupC hla hlc)
  · rw [← Nat.add_assoc, ← hnext]
    exact lt_of_mem_liens hla auteurs
  · rw [← Nat.add_assoc, ← hnext]
    exact lt_of_mem_liens hlc categories

/-- The books get consecutive keys, if the rows they are linked to exist. -/
theorem creerLivres_eq (t : Tirages) (b : Base) {categories auteurs : ℕ}
    (hcategories : ∀ i : Fin 5, b.hasCategorie (categories + i) = true)
    (hauteurs : ∀ i : Fin 5, b.hasAuteur (auteurs + i) = true)
    (hliensA : b.livreAuteur = []) (hliensC : b.livreCategorie = []) :
    ∃ livre livreAuteur livreCategorie,
      creerLivres t (Vector.ofFn fun i => categories + i) (Vector.ofFn fun i => auteurs + i) b
          = some (Vector.ofFn fun i => b.tables.livre.next + i,
              b.avecLivres livre livreAuteur livreCategorie) ∧
        ∀ i : Fin 20, (livre.find (b.tables.livre.next + i)).isSome = true := by
  have hinj : ∀ n, Function.Injective fun i : Fin 5 => n + (i : ℕ) := by
    intro n i j h
    exact Fin.ext (Nat.add_left_cancel h)
  have hstart : LivresCrees t b 0 b :=
    ⟨b.livreAuteur, b.livreCategorie, rfl, by rw [hliensA]; simp, by rw [hliensC]; simp⟩
  rw [creerLivres, Load.get_ofFn, Load.get_ofFn]
  obtain ⟨b', hrun, la, lc, rfl, -, -⟩ := Load.ofFnM_eq _ (LivresCrees t b)
    (fun i b' hb' => hb'.step (List.forall_mem_map.mpr fun i _ => hauteurs i)
      ((t.livres i).auteurs_nodup.map (hinj auteurs))
      (List.forall_mem_map.mpr fun i _ => hcategories i)
      ((t.livres i).categories_nodup.map (hinj categories)))
    hstart
  rw [List.take_of_length_le (Nat.le_of_eq List.length_ofFn)] at hrun
  exact ⟨_, la, lc, hrun, b.tables.livre.isSome_find_ofFn _⟩

/-! ### Accounts -/

/-- The emails of the accounts. -/
def emailsSemes : List String :=
  "admin@articles.fr" :: "biblio@articles.fr" :: List.ofFn emailAdherent

/-- The hasher hashes the passwords of the accounts, and the hashes fit their column. -/
def HacheSemes (services : Services) : Prop :=
  ∀ plain ∈ ["admin", "biblio", "password"], ∀ sel, ∃ hash,
    services.hashPassword plain sel = some hash ∧ hash.length ≤ 255

/-- The base with other accounts. -/
def Base.avecUtilisateurs (b : Base) (utilisateur : Table UtilisateurRow) : Base :=
  { b with tables := { b.tables with utilisateur := utilisateur } }

/-- The row of an account whose email is short enough for its column. -/
def ligneUtilisateur (v : Utilisateur) (email hash : String) (dateAdhesion : Datetime) :
    UtilisateurRow :=
  ⟨0, email, v.roles, couper 255 hash, v.nom.map (couper 100), v.prenom.map (couper 100),
    dateAdhesion, v.dateNaiss, v.adressePostale.map (couper 255), v.numTel.map (couper 20),
    v.photo.map (couper 255)⟩

/-- An email is free among the accounts with other emails. -/
theorem countP_memeEmail {key : String → String} {rows : List UtilisateurRow} {avant : List String}
    {email : String} (hrows : rows.map UtilisateurRow.email = avant)
    (hnodup : ((avant ++ [email]).map key).Nodup) :
    rows.countP (fun r => key r.email == key email) = 0 := by
  rw [List.map_append, List.nodup_append] at hnodup
  rw [List.countP_eq_zero]
  intro r hr heq
  refine hnodup.2.2 (key r.email) ?_ (key email) (List.mem_singleton.mpr rfl) (beq_iff_eq.mp heq)
  rw [← hrows]
  exact List.mem_map_of_mem (List.mem_map_of_mem hr)

/-- One account, after those of `rows`. -/
theorem persistCompte_eq {services : Services} {plain hash email : String} {sel : ℕ}
    {dateAdhesion : Datetime} {t : Table UtilisateurRow} {avant : List String} (b : Base)
    (v : Utilisateur) (rows : List UtilisateurRow)
    (hhash : services.hashPassword plain sel = some hash) (hemail : v.email = some email)
    (hlength : email.length ≤ 180) (hdate : v.dateAdhesion = some dateAdhesion)
    (hfits : Utilisateur.fits { v with password := some hash } = true)
    (hvide : ∀ p, b.tables.utilisateur.count p = 0) (ht : t = b.tables.utilisateur.insertAll rows)
    (hrows : rows.map UtilisateurRow.email = avant)
    (hnodup : ((avant ++ [email]).map b.tables.emailKey).Nodup) :
    persistCompte services plain sel v (b.avecUtilisateurs t)
      = some (t.next, b.avecUtilisateurs
          (t.insert (ligneUtilisateur v email hash dateAdhesion))) := by
  have hlibre : (b.avecUtilisateurs t).tables.emailLibre 0 email = true := by
    have hcount : t.count (fun r => b.tables.emailKey r.email == b.tables.emailKey email) = 0 := by
      rw [ht, Table.count_insertAll _ _ fun _ _ => rfl, hvide, countP_memeEmail hrows hnodup]
    exact beq_iff_eq.mpr ((Table.others_zero _ _).trans hcount)
  have hexec : exec (.insertUtilisateur { v with password := some hash })
      (b.avecUtilisateurs t).tables
        = some (b.avecUtilisateurs
            (t.insert (ligneUtilisateur v email hash dateAdhesion))).tables := by
    rw [hemail, hdate] at hfits
    rw [exec, hemail, hdate]
    simp only [couper_of_length_le hlength]
    exact if_pos ⟨hfits, hlibre⟩
  have hbase : execBase (.prets (.insertUtilisateur { v with password := some hash }))
      (b.avecUtilisateurs t)
        = some (b.avecUtilisateurs (t.insert (ligneUtilisateur v email hash dateAdhesion))) := by
    rw [execBase, hexec]
    rfl
  have hlift : StateT.lift (services.hashPassword plain sel) (b.avecUtilisateurs t)
      = some (hash, b.avecUtilisateurs t) := by
    rw [hhash]
    rfl
  rw [persistCompte, Load.bind_eq hlift]
  exact Load.insert_eq hbase

/-- The emails before that of the member `i`, and its own. -/
theorem take_emailsSemes (i : Fin 10) :
    emailsSemes.take (i + 3) = ("admin@articles.fr" :: "biblio@articles.fr" ::
      (List.ofFn emailAdherent).take i) ++ [emailAdherent i] := by
  have htake := Load.take_succ_ofFn emailAdherent i
  rw [emailsSemes, List.take_succ_cons, List.take_succ_cons, htake]
  rfl

theorem fits_personnel {email role nom prenom hash : String} (dateNaiss : Date) (t : PersonnelTire)
    (hemail : email.length ≤ 180) (hnom : nom.length ≤ 100) (hprenom : prenom.length ≤ 100)
    (hhash : hash.length ≤ 255) :
    Utilisateur.fits
      { AppFixtures.personnel email role nom prenom dateNaiss t with password := some hash }
      = true := by
  simp [Utilisateur.fits, AppFixtures.personnel, UtilisateurCrudController.vide, fits_of_length_le,
    fits_none, hemail, hnom, hprenom, hhash]

theorem length_emailAdherent : ∀ i : Fin 10, (emailAdherent i).length ≤ 180 := by decide

theorem fits_adherent (i : Fin 10) (t : AdherentTire) {hash : String} (h : hash.length ≤ 255) :
    Utilisateur.fits { adherent i t with password := some hash } = true := by
  have hphoto : (picsum "user" i "150/150").length ≤ 255 :=
    length_picsum (by omega) (by decide) (by decide)
  simp [Utilisateur.fits, adherent, UtilisateurCrudController.vide, fits_of_length_le, h,
    length_emailAdherent i, hphoto, t.nom.2, t.prenom.2, t.adressePostale.2, t.numTel.2]

/-- The members get consecutive keys after the two accounts of the staff. -/
theorem creerUtilisateurs_eq {services : Services} (hhash : HacheSemes services) (t : Tirages)
    (b : Base) (hvide : ∀ p, b.tables.utilisateur.count p = 0)
    (hemails : (emailsSemes.map b.tables.emailKey).Nodup) :
    ∃ utilisateur, creerUtilisateurs services t b
        = some (Vector.ofFn fun i => b.tables.utilisateur.next + 2 + i,
            b.avecUtilisateurs utilisateur) ∧
      ∀ i : Fin 10, (utilisateur.find (b.tables.utilisateur.next + 2 + i)).isSome = true := by
  have hnodup : ∀ n, ((emailsSemes.take n).map b.tables.emailKey).Nodup := fun n =>
    hemails.sublist ((List.take_sublist n _).map _)
  obtain ⟨hashA, hhashA, hfitsA⟩ := hhash "admin" (by simp) t.admin.sel
  obtain ⟨hashB, hhashB, hfitsB⟩ := hhash "biblio" (by simp) t.biblio.sel
  have hhashes := fun i => hhash "password" (by simp) (t.adherents i).sel
  choose hashes hhashes hfits using hhashes
  let ligneA := ligneUtilisateur (admin t.admin) "admin@articles.fr" hashA (toDatetime t.admin.now)
  let ligneB := ligneUtilisateur (biblio t.biblio) "biblio@articles.fr" hashB
    (toDatetime t.biblio.now)
  let lignes : Fin 10 → UtilisateurRow := fun i =>
    ligneUtilisateur (adherent i (t.adherents i)) (emailAdherent i) (hashes i)
      (t.adherents i).dateAdhesion
  have hA := persistCompte_eq b (admin t.admin) [] hhashA rfl (by decide) rfl
    (fits_personnel _ _ (by decide) (by decide) (by decide) hfitsA) hvide rfl rfl (hnodup 1)
  have hB := persistCompte_eq b (biblio t.biblio) [ligneA] hhashB rfl (by decide) rfl
    (fits_personnel _ _ (by decide) (by decide) (by decide) hfitsB) hvide rfl rfl (hnodup 2)
  have hloop := Load.ofFnM_insertAll (f := fun i => persistCompte services "password"
      (t.adherents i).sel (adherent i (t.adherents i))) b.avecUtilisateurs lignes
    (b.tables.utilisateur.insertAll [ligneA, ligneB]) fun i t' ht' => by
      rw [← Table.insertAll_append] at ht'
      refine persistCompte_eq b _ _ (hhashes i) rfl (length_emailAdherent i) rfl
        (fits_adherent i _ (hfits i)) hvide ht' ?_ (take_emailsSemes i ▸ hnodup (i + 3))
      rw [List.map_append, List.map_take, List.map_ofFn]
      rfl
  refine ⟨(b.tables.utilisateur.insertAll [ligneA, ligneB]).insertAll (List.ofFn lignes), ?_, ?_⟩
  · rw [creerUtilisateurs]
    exact (Load.bind_eq hA).trans ((Load.bind_eq hB).trans hloop)
  · exact (b.tables.utilisateur.insertAll [ligneA, ligneB]).isSome_find_ofFn lignes

/-! ### Loans -/

/-- The row of a loan, for the keys of the first member and of the first book. -/
def EmpruntTire.ligne (adherents livres : ℕ) (e : EmpruntTire) : EmpruntRow :=
  ⟨0, e.dateEmprunt, e.dateRetour, adherents + e.adherent, livres + e.livre⟩

/-- The loans are written as they are drawn. -/
theorem creerEmprunts_eq (t : Tirages) (b : Base) {adherents livres : ℕ}
    (hadherents : ∀ i : Fin 10, b.tables.hasUtilisateur (adherents + i) = true)
    (hlivres : ∀ i : Fin 20, b.tables.hasLivre (livres + i) = true) :
    creerEmprunts t (Vector.ofFn fun i => adherents + i) (Vector.ofFn fun i => livres + i) b
      = some (Vector.ofFn fun i => b.tables.emprunt.next + i,
          { b with
            tables := { b.tables with
              emprunt := b.tables.emprunt.insertAll
                (List.ofFn fun i => (t.emprunts i).ligne adherents livres) } }) := by
  rw [creerEmprunts, Load.get_ofFn, Load.get_ofFn]
  refine Load.ofFnM_insertAll
    (fun emprunt => { b with tables := { b.tables with emprunt := emprunt } }) _ b.tables.emprunt
    fun i emprunt _ => ?_
  refine Load.insert_eq ?_
  have hexec : exec (.insertEmprunt ⟨none, some (t.emprunts i).dateEmprunt,
      (t.emprunts i).dateRetour, some (adherents + (t.emprunts i).adherent),
      some (livres + (t.emprunts i).livre)⟩) { b.tables with emprunt := emprunt }
        = some { b.tables with
            emprunt := emprunt.insert ((t.emprunts i).ligne adherents livres) } :=
    if_pos ⟨hadherents _, hlivres _⟩
  rw [execBase, hexec]
  rfl

/-- **Loading.**  `load` cannot fail, and its loans are those that were drawn, of the rows with the
keys that the members and the books have got. -/
theorem load_eq {services : Services} (hhash : HacheSemes services) (t : Tirages) (b : Base)
    (hemails : (emailsSemes.map b.tables.emailKey).Nodup) :
    ∃ b', load services t b.purge = some ((), b') ∧
      b'.tables.emprunt = b.tables.emprunt.clear.insertAll (List.ofFn fun i =>
        (t.emprunts i).ligne (b.tables.utilisateur.next + 2) b.tables.livre.next) := by
  obtain ⟨categorie, hrunC, hcategories⟩ := creerCategories_eq t b.purge
  obtain ⟨auteur, hrunA, hauteurs⟩ := creerAuteurs_eq t { b.purge with categorie := categorie }
  obtain ⟨livre, la, lc, hrunL, hlivres⟩ := creerLivres_eq t
    { b.purge with categorie := categorie, auteur := auteur } hcategories hauteurs rfl rfl
  let b₃ := Base.avecLivres { b.purge with categorie := categorie, auteur := auteur } livre la lc
  obtain ⟨utilisateur, hrunU, hadherents⟩ := creerUtilisateurs_eq hhash t b₃
    (fun p => b.tables.utilisateur.count_clear p) hemails
  have hrunE := creerEmprunts_eq t (b₃.avecUtilisateurs utilisateur) hadherents hlivres
  exact ⟨_, (Load.bind_eq hrunC).trans <| (Load.bind_eq hrunA).trans <|
    (Load.bind_eq hrunL).trans <| (Load.bind_eq hrunU).trans (Load.bind_eq hrunE), rfl⟩

/-! ### Rules -/

/-- The loans drawn without a return date. -/
def Tirages.ouverts (t : Tirages) : Finset (Fin 15) :=
  Finset.univ.filter fun i => (t.emprunts i).dateRetour = none

/-- Of the loans drawn without a return date, no two are of one book and no six of one member. -/
structure PretsReguliers (t : Tirages) : Prop where
  livre : ∀ i ∈ t.ouverts, ∀ j ∈ t.ouverts, (t.emprunts i).livre = (t.emprunts j).livre → i = j
  adherent : ∀ a, (t.ouverts.filter fun i => (t.emprunts i).adherent = a).card ≤ 5

section Counting

variable {t : Tirages} {s : Tables} {emprunt : Table EmpruntRow} {adherents livres : ℕ}
  (hs : s.emprunt = emprunt.clear.insertAll
    (List.ofFn fun i => (t.emprunts i).ligne adherents livres))

include hs

theorem count_semes {p : EmpruntRow → Bool} (hp : ∀ n r, p (Keyed.withKey n r) = p r) :
    s.emprunt.count p
      = (Finset.univ.filter fun i => p ((t.emprunts i).ligne adherents livres) = true).card := by
  rw [hs, Table.count_insertAll _ _ hp, Table.count_clear, Nat.zero_add, countP_ofFn]

theorem enCoursLivre_semes (l : ℕ) :
    s.enCoursLivre l = (t.ouverts.filter fun i => livres + (t.emprunts i).livre = l).card := by
  rw [Tables.enCoursLivre, count_semes hs fun _ _ => rfl, Tirages.ouverts, Finset.filter_filter]
  refine congrArg Finset.card (Finset.filter_congr fun i _ => ?_)
  simp [surLivre, EmpruntRow.enCours, EmpruntTire.ligne, and_comm]

theorem enCoursUtilisateur_semes (u : ℕ) :
    s.enCoursUtilisateur u
      = (t.ouverts.filter fun i => adherents + (t.emprunts i).adherent = u).card := by
  rw [Tables.enCoursUtilisateur, count_semes hs fun _ _ => rfl, Tirages.ouverts,
    Finset.filter_filter]
  refine congrArg Finset.card (Finset.filter_congr fun i _ => ?_)
  simp [parUtilisateur, EmpruntRow.enCours, EmpruntTire.ligne, and_comm]

/-- A return date is drawn from the loan date on. -/
theorem datesOrdonnees_semes : DatesOrdonnees s := by
  rw [datesOrdonnees_iff_count, count_semes hs fun _ _ => rfl, Finset.card_eq_zero,
    Finset.filter_eq_empty_iff]
  intro i _
  rw [Bool.not_eq_true, EmpruntRow.inverse_eq_false_iff]
  exact fun d hd => ((t.emprunts i).dateRetour_between d hd).1

/-- The bounds on the open loans are bounds on the draws. -/
theorem empruntsBornes_semes_iff : EmpruntsBornes s ↔ PretsReguliers t := by
  constructor
  · intro h
    refine ⟨fun i hi j hj hlivre => ?_, fun a => ?_⟩
    · have hle := h.livre (livres + (t.emprunts i).livre)
      rw [enCoursLivre_semes hs, Finset.card_le_one] at hle
      refine hle i (Finset.mem_filter.mpr ⟨hi, rfl⟩) j (Finset.mem_filter.mpr ⟨hj, ?_⟩)
      rw [hlivre]
    · have hle := h.utilisateur (adherents + a)
      rw [enCoursUtilisateur_semes hs] at hle
      simpa [Fin.ext_iff] using hle
  · intro h
    refine ⟨fun l => ?_, fun u => ?_⟩
    · rw [enCoursLivre_semes hs, Finset.card_le_one]
      intro i hi j hj
      obtain ⟨hi, hil⟩ := Finset.mem_filter.mp hi
      obtain ⟨hj, hjl⟩ := Finset.mem_filter.mp hj
      exact h.livre i hi j hj (Fin.ext (by omega))
    · rw [enCoursUtilisateur_semes hs]
      rcases Finset.eq_empty_or_nonempty
        (t.ouverts.filter fun i => adherents + (t.emprunts i).adherent = u) with hnone | ⟨i, hi⟩
      · rw [hnone, Finset.card_empty]
        omega
      · -- all these loans are of the member of one of them
        refine Nat.le_trans (Finset.card_le_card fun j hj => ?_)
          (h.adherent (t.emprunts i).adherent)
        obtain ⟨hj, hju⟩ := Finset.mem_filter.mp hj
        have hiu := (Finset.mem_filter.mp hi).2
        exact Finset.mem_filter.mpr ⟨hj, Fin.ext (by omega)⟩

end Counting

/-- **Seeded data.**  After a purge, with a hasher that hashes the passwords of the accounts and a
collation that tells their emails apart: whatever is drawn, `load` succeeds, and the tables keep the
rules of lending exactly if of the loans drawn without a return date no two are of one book and no
six are of one member. -/
theorem seeded_rules_iff (services : Services) (hhash : HacheSemes services) (t : Tirages)
    (b : Base) (hemails : (emailsSemes.map b.tables.emailKey).Nodup) :
    ∃ b', load services t b.purge = some ((), b') ∧
      (EmpruntsBornes b'.tables ∧ DatesOrdonnees b'.tables ↔ PretsReguliers t) := by
  obtain ⟨b', hrun, hemprunt⟩ := load_eq hhash t b hemails
  refine ⟨b', hrun, ?_⟩
  rw [empruntsBornes_semes_iff hemprunt]
  exact and_iff_left (datesOrdonnees_semes hemprunt)

namespace Exemple

/-- Draws in which no book is returned: the loan `i` is of the book `livre i`. -/
def tirages (livre : Fin 15 → Fin 20) : Tirages where
  categories _ := "Quia aut."
  auteurs _ := ⟨⟨"Gillet", by decide⟩, ⟨"Aurore", by decide⟩, "Quia aut."⟩
  livres _ := ⟨⟨"natus mollitia ut", by decide⟩, 0, 0, [0], [0], by decide, by decide, by decide,
    by decide⟩
  admin := ⟨0, 0⟩
  biblio := ⟨0, 0⟩
  adherents _ := ⟨0, ⟨"Evrard", by decide⟩, ⟨"Lucy", by decide⟩, 0, 0, ⟨"3, rue Noel", by decide⟩,
    ⟨"06 12 34 56 78", by decide⟩⟩
  emprunts i := ⟨Fin.ofNat 10 i, livre i, 0, 0, 0, none, by decide, by simp⟩

theorem hacheSemes_services : HacheSemes services := by
  intro plain hplain sel
  simp only [List.mem_cons, List.not_mem_nil, or_false] at hplain
  rcases hplain with rfl | rfl | rfl
  · exact ⟨_, rfl, by decide⟩
  · exact ⟨_, rfl, by decide⟩
  · exact ⟨_, rfl, by decide⟩

end Exemple

/-- Fifteen loans of different books. -/
theorem seeded_rules_fifteen_books :
    ∃ b', load Exemple.services (Exemple.tirages (Fin.castLE (by decide)))
        (Exemple.base .empty .empty).purge = some ((), b') ∧
      EmpruntsBornes b'.tables ∧ DatesOrdonnees b'.tables := by
  have hreguliers : PretsReguliers (Exemple.tirages (Fin.castLE (by decide))) :=
    ⟨by decide, by decide⟩
  obtain ⟨b', hrun, hiff⟩ := seeded_rules_iff Exemple.services Exemple.hacheSemes_services
    (Exemple.tirages (Fin.castLE (by decide))) (Exemple.base .empty .empty) (by decide)
  exact ⟨b', hrun, hiff.mpr hreguliers⟩

/-- The first two loans are of the first book, which has two open loans then. -/
theorem seeded_book_lent_twice :
    let t := Exemple.tirages fun i => Fin.ofNat 20 (i - 1)
    ∃ b', load Exemple.services t (Exemple.base .empty .empty).purge = some ((), b') ∧
      b'.tables.enCoursLivre 3 = 2 ∧ ¬ EmpruntsBornes b'.tables := by
  intro t
  obtain ⟨b', hrun, hemprunt⟩ := load_eq Exemple.hacheSemes_services t
    (Exemple.base .empty .empty) (by decide)
  have hdeux : b'.tables.enCoursLivre 3 = 2 := by
    rw [enCoursLivre_semes hemprunt]
    decide
  refine ⟨b', hrun, hdeux, fun h => ?_⟩
  have hle := h.livre 3
  omega

end Biblio
