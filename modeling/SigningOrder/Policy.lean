/-
Who may change the system entities. Updates of accounts and changes of files in
the reserved range fall under rules of their own: only the treasury may change
the treasury, superusers may change any other system account and any system
file, and three more accounts administer certain files. All else is left to the
ordinary keys.
-/
import SigningOrder.Config
import SigningOrder.Transaction

namespace SigningOrder

/-- What the rules for system entities say of an operation. -/
inductive Authorization where
  /-- The operation does not fall under the rules. -/
  | unnecessary
  /-- It does, and the payer may not do it. -/
  | unauthorized
  /-- It does, and the payer may do it. -/
  | authorized
  deriving DecidableEq, Repr

namespace Authorization

/-- The name of an answer. -/
def name : Authorization → String
  | unnecessary => "Unnecessary"
  | unauthorized => "Unauthorized"
  | authorized => "Authorized"

/-- Whether the payer may do what falls under the rules. -/
def isAuthorized (a : Authorization) : Bool :=
  a == authorized

end Authorization

namespace EntityNumbers

/-- The answer for the update of an account. -/
def checkAccountUpdate (x : EntityNumbers) (payer target : AccountId) :
    Authorization :=
  if x.isTreasury target then
    if x.isTreasury payer then .authorized else .unauthorized
  else if x.isSystemAccount target && x.isSuperuser payer then .authorized
  else .unnecessary

/-- Whether an account administers a file. An account that has several of the
administrations has only the first of them, in the order given here. -/
def isFileAdmin (x : EntityNumbers) (payer : AccountId) (file : FileId) :
    Bool :=
  if payer = x.account x.addressBookAdmin then
    x.files.addressBookAdminFiles.any fun num => file == x.file num
  else if payer = x.account x.feeSchedulesAdmin then
    file == x.file x.files.feeSchedules
  else if payer = x.account x.exchangeRatesAdmin then
    file == x.file x.files.exchangeRates
  else false

/-- The answer for the change of a file. -/
def checkFileChange (x : EntityNumbers) (payer : AccountId) (file : FileId) :
    Authorization :=
  if !x.isSystemFile file then .unnecessary
  else if x.isSuperuser payer || x.isFileAdmin payer file then .authorized
  else .unauthorized

/-- The answer for a transaction; only three operations ever fall under the
rules. -/
def check (x : EntityNumbers) (t : Transaction) : Authorization :=
  match t.body with
  | .cryptoUpdate op => x.checkAccountUpdate t.payer op.account
  | .fileUpdate op => x.checkFileChange t.payer op.file
  | .fileAppend op => x.checkFileChange t.payer op.file
  | _ => .unnecessary

end EntityNumbers

end SigningOrder
