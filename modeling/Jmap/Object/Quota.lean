import Jmap.Json.Record

namespace Jmap

open Json

structure Quota where
  id : String
  resourceType : String
  used : UInt64
  hardLimit : UInt64
  warnLimit : Option UInt64
  softLimit : Option UInt64
  scope : String
  name : String
  types : List String
  description : Option String
deriving DecidableEq, Inhabited

namespace Quota

abbrev slots : List Slot :=
  [.required "id" String, .required "resourceType" String, .defaulted "used" UInt64 0,
    .defaulted "hardLimit" UInt64 0, .nullable "warnLimit" UInt64, .nullable "softLimit" UInt64,
    .defaulted "scope" String "", .defaulted "name" String "",
    .defaulted "types" (List String) [], .nullable "description" String]

instance : Wire Quota :=
  .record "Quota" slots
    (fun (id, resourceType, used, hardLimit, warnLimit, softLimit, scope, name, types,
        description, ()) =>
      { id, resourceType, used, hardLimit, warnLimit, softLimit, scope, name, types,
        description })
    (fun quota =>
      (quota.id, quota.resourceType, quota.used, quota.hardLimit, quota.warnLimit,
        quota.softLimit, quota.scope, quota.name, quota.types, quota.description, ()))

end Quota

end Jmap
