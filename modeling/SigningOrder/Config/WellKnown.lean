/-
The well-known entities of a network: the accounts that administer it, the
special files, and the range of numbers that is reserved for system entities.
All of them are in one shard and realm.
-/
import SigningOrder.Entity.Format

namespace SigningOrder

/-- The numbers of the special files. -/
structure SpecialFiles where
  addressBook : UInt64
  nodeDetails : UInt64
  feeSchedules : UInt64
  exchangeRates : UInt64
  applicationProperties : UInt64
  apiPermissions : UInt64
  throttleDefinitions : UInt64
  deriving DecidableEq, Repr

namespace SpecialFiles

/-- The fields, in the order in which they are written. -/
def fields : Fields SpecialFiles :=
  (Fields.and (.defaulted "address_book" .word64 101) <|
   Fields.and (.defaulted "node_details" .word64 102) <|
   Fields.and (.defaulted "fee_schedules" .word64 111) <|
   Fields.and (.defaulted "exchange_rates" .word64 112) <|
   Fields.and (.defaulted "application_properties" .word64 121) <|
   Fields.and (.defaulted "api_permissions" .word64 122) <|
   .defaulted "throttle_definitions" .word64 123).as
    (fun (addressBook, nodeDetails, feeSchedules, exchangeRates,
     applicationProperties, apiPermissions, throttleDefinitions) =>
      ⟨addressBook, nodeDetails, feeSchedules, exchangeRates,
       applicationProperties, apiPermissions, throttleDefinitions⟩)
    (fun x => (x.addressBook, x.nodeDetails, x.feeSchedules, x.exchangeRates,
      x.applicationProperties, x.apiPermissions, x.throttleDefinitions))

/-- The written form. -/
def format : Format SpecialFiles :=
  fields.record

/-- The special files under their names. -/
def named (x : SpecialFiles) : List (String × UInt64) :=
  [("address_book", x.addressBook), ("node_details", x.nodeDetails),
    ("fee_schedules", x.feeSchedules), ("exchange_rates", x.exchangeRates),
    ("application_properties", x.applicationProperties),
    ("api_permissions", x.apiPermissions),
    ("throttle_definitions", x.throttleDefinitions)]

/-- The files that the administrator of the address book may change. -/
def addressBookAdminFiles (x : SpecialFiles) : List UInt64 :=
  [x.addressBook, x.nodeDetails, x.applicationProperties, x.apiPermissions,
    x.throttleDefinitions]

/-- The usual numbers. -/
def usual : SpecialFiles :=
  ⟨101, 102, 111, 112, 121, 122, 123⟩

end SpecialFiles

/-- The numbers of the well-known entities. -/
structure EntityNumbers where
  shard : UInt64
  realm : UInt64
  /-- The highest number of a system entity. -/
  reserved : UInt64
  treasury : UInt64
  systemAdmin : UInt64
  addressBookAdmin : UInt64
  feeSchedulesAdmin : UInt64
  exchangeRatesAdmin : UInt64
  files : SpecialFiles
  deriving DecidableEq, Repr

namespace EntityNumbers

/-- The fields, in the order in which they are written. -/
def fields : Fields EntityNumbers :=
  (Fields.and (.defaulted "shard" .word64 0) <|
   Fields.and (.defaulted "realm" .word64 0) <|
   Fields.and (.defaulted "num_reserved_system_entities" .word64 750) <|
   Fields.and (.defaulted "treasury" .word64 2) <|
   Fields.and (.defaulted "system_admin" .word64 50) <|
   Fields.and (.defaulted "address_book_admin" .word64 55) <|
   Fields.and (.defaulted "fee_schedules_admin" .word64 56) <|
   Fields.and (.defaulted "exchange_rates_admin" .word64 57) <|
   .defaulted "files" SpecialFiles.format SpecialFiles.usual).as
    (fun (shard, realm, reserved, treasury, systemAdmin, addressBookAdmin,
     feeSchedulesAdmin, exchangeRatesAdmin, files) =>
      ⟨shard, realm, reserved, treasury, systemAdmin, addressBookAdmin,
       feeSchedulesAdmin, exchangeRatesAdmin, files⟩)
    (fun x => (x.shard, x.realm, x.reserved, x.treasury, x.systemAdmin,
      x.addressBookAdmin, x.feeSchedulesAdmin, x.exchangeRatesAdmin, x.files))

/-- The written form. -/
def format : Format EntityNumbers :=
  fields.record

/-- The administrative accounts under their names. -/
def namedAccounts (x : EntityNumbers) : List (String × UInt64) :=
  [("treasury", x.treasury), ("system_admin", x.systemAdmin),
    ("address_book_admin", x.addressBookAdmin),
    ("fee_schedules_admin", x.feeSchedulesAdmin),
    ("exchange_rates_admin", x.exchangeRatesAdmin)]

/-- The usual numbers. -/
def usual : EntityNumbers :=
  ⟨0, 0, 750, 2, 50, 55, 56, 57, .usual⟩

/-- The account of a number, in the shard and realm of the network. -/
def account (x : EntityNumbers) (num : UInt64) : AccountId :=
  ⟨x.shard, x.realm, num⟩

/-- The file of a number, in the shard and realm of the network. -/
def file (x : EntityNumbers) (num : UInt64) : FileId :=
  ⟨x.shard, x.realm, num⟩

/-- Whether an identifier is in the shard and realm of the network. -/
def isHome {kind : EntityKind} (x : EntityNumbers) (id : EntityId kind) :
    Bool :=
  id.shard == x.shard && id.realm == x.realm

/-- The treasury. -/
def treasuryAccount (x : EntityNumbers) : AccountId :=
  x.account x.treasury

/-- Whether an account is the treasury. -/
def isTreasury (x : EntityNumbers) (id : AccountId) : Bool :=
  id == x.treasuryAccount

/-- Whether an account is the treasury or the system administrator. -/
def isSuperuser (x : EntityNumbers) (id : AccountId) : Bool :=
  x.isHome id && (id.num == x.treasury || id.num == x.systemAdmin)

/-- Whether an account is in the reserved range. -/
def isSystemAccount (x : EntityNumbers) (id : AccountId) : Bool :=
  x.isHome id && id.num ≤ x.reserved

/-- Whether a file is in the reserved range. -/
def isSystemFile (x : EntityNumbers) (id : FileId) : Bool :=
  x.isHome id && id.num ≤ x.reserved

end EntityNumbers

end SigningOrder
