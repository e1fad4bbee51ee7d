import Biblio.Store.Table
import Biblio.Store.Interleave
import Biblio.Schema
import Biblio.Emprunt
import Biblio.Reservations
import Biblio.Php
import Biblio.Utilisateur
import Biblio.Requete
import Biblio.Equiv.Validator
import Biblio.Equiv.Ecrit
import Biblio.Equiv.Statement
import Biblio.Equiv.LoanRules
import Biblio.Equiv.ReservationRules
import Biblio.Equiv.Exclusion
import Biblio.Equiv.ApiSerial
import Biblio.Equiv.StaffAccounts
import Biblio.Equiv.Passwords
import Biblio.Sso
import Biblio.Equiv.TokenOwner
import Biblio.Equiv.Desk
import Biblio.Equiv.Returns
import Biblio.Client
import Biblio.Equiv.ClientSession
import Biblio.Equiv.LoginFlag
import Biblio.Equiv.LoanSave
import Biblio.Equiv.Vanishing
import Biblio.Equiv.AccountData
import Biblio.Equiv.Roles
import Biblio.Catalogue
import Biblio.Equiv.Search
import Biblio.Equiv.SearchCollections
import Biblio.Equiv.SearchText
import Biblio.Api
import Biblio.Equiv.Isolation
import Biblio.Equiv.Conversion
import Biblio.Equiv.Registration
import Biblio.Equiv.Lateness
import Biblio.Equiv.Profile
import Biblio.Base
import Biblio.Equiv.ListOrder
import Biblio.Equiv.PageNumber
import Biblio.Equiv.PageRange
import Biblio.Equiv.Availability
import Biblio.Equiv.LoanDates
import Biblio.Equiv.RoleFilter
import Biblio.Equiv.TokenRoles
import Biblio.Equiv.Seed
import Biblio.Store.Guard
import Biblio.Store.Keys
import Biblio.Equiv.Units
import Biblio.Equiv.ReservationOverlap
import Biblio.Equiv.LoanOverlap
import Biblio.Equiv.AccountColumns
import Biblio.Pont
import Biblio.Equiv.Bridge
import Biblio.Http
import Biblio.Equiv.Routing
import Biblio.Equiv.Access
import Biblio.Lecture
import Biblio.Equiv.Confidentiality
import Biblio.Profil
import Biblio.Equiv.ProfilePage
import Biblio.Equiv.ProfileSession
import Biblio.Store.Group
import Biblio.Equiv.Statistics
import Biblio.Store.Cell
import Biblio.Equiv.BookLinks
import Biblio.Equiv.BookPages
import Biblio.Equiv.BookSearch
