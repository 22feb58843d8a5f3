import Backoffice.Record.Client
import Backoffice.Record.User

namespace Backoffice

/-- Where names of business units are looked up, in this order. The lists of the clients stand in
the order of the clients' identifiers. -/
structure UnitSources where
  selectedUser : Option AdminUser
  bulkUsers : List AdminUser
  byClient : List (Id .client × List UnitOption)
  deriving Repr

namespace UnitSources

def filledName? : Option String → Option String
  | some n => if Text.isBlankText n then none else some n
  | none => none

def nameIn (id : Id .businessUnit) (u : AdminUser) : Option String :=
  filledName? (u.businessUnitName id)

def nameAmong (id : Id .businessUnit) (units : List UnitOption) : Option String :=
  (units.find? fun u ↦ u.id = id ∧ ¬Text.isBlankText u.name).map UnitOption.name

def nameOf (s : UnitSources) (id : Id .businessUnit) : Option String :=
  (s.selectedUser.bind (nameIn id)).orElse fun _ ↦
    (s.bulkUsers.findSome? (nameIn id)).orElse fun _ ↦
      nameAmong id (s.byClient.flatMap Prod.snd)

/-- The cached list, with the selected unit before it if the list lacks the unit and some source
names it. -/
def options (s : UnitSources) (selected : Option (Id .businessUnit)) (cached : List UnitOption) :
    List UnitOption :=
  match Id.filled? selected with
  | none => cached
  | some id =>
    if cached.any fun u ↦ u.id = id then cached
    else
      match s.nameOf id with
      | some name => ⟨id, name⟩ :: cached
      | none => cached

end UnitSources

end Backoffice
