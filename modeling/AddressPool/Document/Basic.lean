import AddressPool.Store.Backend

/-!
# Documents that configure a network

A configuration is written as a document: the name of a network, the lists of
ranges that make up its rings, and the settings of its store.  A document holds
what is written, as texts, before anything is made of it.
-/

namespace AddressPool

set_option autoImplicit false

/-- One range as it is written. -/
structure RangeEntry where
  subnet : String
  rangeStart : Option String
  rangeEnd : Option String
  gateway : Option String
  exclude : List String
  deriving DecidableEq, Repr

/-- The settings of a store as they are written. -/
inductive StoreEntry where
  | disk (dataDirectory : Option String) (lockTimeout : Option UInt64)
  | memory
  deriving DecidableEq, Repr

/-- A configuration as it is written. -/
structure Document where
  name : String
  ranges : List (List RangeEntry)
  store : StoreEntry
  deriving DecidableEq, Repr

/-- The settings of a store that is not mentioned. -/
def StoreEntry.unmentioned : StoreEntry := .disk none none

/-- The settings that are meant, with what is left open filled in. -/
def StoreEntry.settings : StoreEntry → StoreSettings
  | .memory => .memory
  | .disk dataDirectory lockTimeout =>
    .disk (dataDirectory.getD StoreSettings.defaultDataDirectory)
      ((lockTimeout.map fun count => Duration.ofMilliseconds count.toNat).getD
        StoreSettings.defaultLockTimeout)

end AddressPool
