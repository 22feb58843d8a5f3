import Backoffice.Identifier
import Backoffice.Text.Blank

namespace Backoffice

structure Routes where
  base : String
  deriving DecidableEq, Repr

namespace Routes

/-- The routes under an address, whose slashes at the end do not count. -/
def ofBase (url : String) : Routes :=
  ⟨String.ofList (Text.dropTrailing (· == '/') url.toList)⟩

variable (r : Routes)

def login : String := r.base ++ "/admin/login"

def refreshToken : String := r.base ++ "/admin/refreshToken"

def me : String := r.base ++ "/admin/me"

def users : String := r.base ++ "/admin/list"

def user (id : Id .user) : String := r.base ++ "/admin/" ++ id.text

def addUser : String := r.base ++ "/admin/add"

def editUser : String := r.base ++ "/admin/edit"

def deleteUser : String := r.base ++ "/admin/delete"

def countries : String := r.base ++ "/location/countries/list"

def activeClients : String := r.base ++ "/client/getActive"

def client (id : Id .client) : String := r.base ++ "/client/" ++ id.text

def businessUnits (id : Id .client) : String :=
  r.base ++ "/business/getByClientForDropdown/" ++ id.text

def roles : String := r.base ++ "/role/list?page=1"

end Routes

end Backoffice
