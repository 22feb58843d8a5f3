import Backoffice.Text.Blank

namespace Backoffice

/-- First and last name, without blanks around either or around both. -/
def fullName (first last : String) : String :=
  Text.trim (Text.trim first ++ " " ++ Text.trim last)

end Backoffice
