/-
The domains of the catalogue.

Five of them make up a family in which no two share an identity: the generic
domain, `http`, `raw`, `label` and `wide`. The others are there for the cases
that such a family rules out. `twin`, `namesake` and `impostor` bear the identity
of another domain, with other values, other rules or both; `echo` keeps
conditions without being the generic domain; `unit` has no success and `flag` no
value but two; `odd` has a value that does not equal itself; `t0` and `t1` read
their rules from tables, and `shadow` has the values of `t0` and none of its rules.

A request may also name an identity by a text. The reader for that comes along with the
domains (`Catalog.IdReader`).
-/
import TaggedStatus.Catalog.IdReader
import TaggedStatus.Catalog.Tables

set_option autoImplicit false

namespace TaggedStatus.Catalog

/-! ## A family without shared identities -/

/-- The condition nearest to a status number of the web (`HttpDomain::generic_code`). -/
def httpCondition (n : Nat) : Condition :=
  if n < 400 then .success
  else match n with
    | 400 => .invalidArgument
    | 401 | 403 => .permissionDenied
    | 404 => .noSuchFileOrDirectory
    | 408 | 504 => .timedOut
    | 413 => .fileTooLarge
    | 429 => .resourceUnavailableTryAgain
    | 501 => .functionNotSupported
    | 503 => .resourceBusy
    | _ => .unknown

/-- Status numbers of the web (`HttpDomain`); those below 400 are success. -/
def http : Domain setting :=
  .standard (.ofNum 0x8c1f52d43b0a4e779d2c61a40b3e7f01) "http" "HttpDomain" (type .word16)
    (fun _ (v : UInt16) => v < 400) (fun _ (v : UInt16) => httpCondition v.toNat)

/-- A number without sign as one with sign, if thirty-two bits have room for it
(`i32::try_from`). -/
def int32? (v : UInt32) : Option Int32 :=
  if v.toNat < 0x80000000 then some (.ofNat v.toNat) else none

/-- The condition with a number of the system interface (`RawCodeDomain::generic_code`). -/
def rawCondition (v : UInt32) : Condition :=
  ((int32? v).bind (fun n => Condition.ofNumber? n.toInt)).getD .unknown

/-- Numbers of the system interface (`RawCodeDomain`); zero is success, and the nearest
condition is the one with the number. -/
def raw : Domain setting :=
  .standard (.ofNum 0x2f6b9e10c4d84a3b8e5f0c7a19d26b02) "raw" "RawCodeDomain" (type .word32)
    (fun _ (v : UInt32) => v == 0) (fun _ (v : UInt32) => rawCondition v)

/-- A status number of the web comes nearest to success if it is below 400. -/
theorem httpCondition_eq_success_iff {n : Nat} : httpCondition n = .success ↔ n < 400 := by
  by_cases h : n < 400
  · simp [httpCondition, h]
  · have hne : httpCondition n ≠ .success := by
      unfold httpCondition
      rw [if_neg h]
      split <;> decide
    simp [h, hne]

/-- No condition has a number that thirty-two bits with sign have no room for, so
nothing is lost on the way into them. -/
theorem bind_int32?_ofNumber? (v : UInt32) :
    (int32? v).bind (fun n => Condition.ofNumber? n.toInt) = Condition.ofNumber? v.toNat := by
  by_cases hroom : v.toNat < 0x80000000
  · have hsame : (Int32.ofNat v.toNat).toInt = v.toNat := Int32.toInt_ofNat_of_lt hroom
    rw [int32?, if_pos hroom, Option.bind_some, hsame]
  · have hnone : Condition.ofNumber? v.toNat = none := by
      rw [Condition.ofNumber?_eq_none_iff]
      intro c hc
      have hsmall : c.number < 0x80000000 := c.number_lt
      omega
    rw [int32?, if_neg hroom, Option.bind_none, hnone]

/-- The known condition nearest to a number of the system interface is the one that has
the number. -/
theorem raw_condition_eq_iff {amb : setting.Ambient} {v : UInt32} {c : Condition}
    (hc : c ≠ .unknown) : raw.condition amb v = c ↔ c.number = v.toNat := by
  show rawCondition v = c ↔ _
  rw [rawCondition, bind_int32?_ofNumber?, ← Condition.ofNumber?_eq_some_iff]
  cases Condition.ofNumber? v.toNat with
  | none => simp [hc.symm]
  | some found => simp

/-- A number of the system interface is success if success is the condition nearest to
it. -/
theorem raw_success_iff {amb : setting.Ambient} {v : UInt32} :
    raw.success amb v = true ↔ raw.condition amb v = .success := by
  show (v == 0) = true ↔ _
  rw [raw_condition_eq_iff (by decide), beq_iff_eq, ← UInt32.toNat_inj, UInt32.toNat_zero,
    Condition.number]
  omega

/-- Free texts (`LabelDomain`); only `ok` is success. -/
def label : Domain setting :=
  .standard (.ofNum 0xd03a77156e2c48f1a6b92e805c149d03) "label" "LabelDomain" (type .text)
    (fun _ (v : String) => v == "ok") (fun _ _ => .unknown)

/-- Triples of words (`WideDomain`); only the zeros are success. -/
def wide : Domain setting :=
  .standard (.ofNum 0x61e40b9a2d574c08b3f17a26e95d0c04) "wide" "WideDomain" (type .triple)
    (fun _ (v : UInt32 × UInt32 × UInt32) => v == (0, 0, 0)) (fun _ _ => .unknown)

/-! ## Further domains -/

/-- Exit statuses of processes. -/
def exit : Domain setting :=
  .standard (.ofNum 0x0e717c0de00040008000000000000001) "exit" "ExitDomain" (type .int32)
    (fun _ (v : Int32) => v == 0)
    (fun _ (v : Int32) =>
      if v = 0 then .success
      else if v = 126 then .permissionDenied
      else if v = 127 then .noSuchFileOrDirectory
      else .unknown)

/-- Signals that ended a process. -/
def signal : Domain setting :=
  .standard (.ofNum 0x5197a100000040008000000000000001) "signal" "SignalDomain" (type .word32)
    (fun _ (v : UInt32) => v == 0) (fun _ _ => .unknown)

/-- The identity of `http` with values of another type. -/
def twin : Domain setting :=
  .standard http.id "http-twin" "TwinDomain" (type .word32)
    (fun _ (v : UInt32) => v < 400) (fun _ _ => .unknown)

/-- The identity and the values of `raw` with other rules. -/
def namesake : Domain setting :=
  .standard raw.id "raw-alias" "AliasDomain" (type .word32)
    (fun _ (v : UInt32) => v == 1) (fun _ _ => .unknown)

/-- The identity of the generic domain with values that are not conditions. -/
def impostor : Domain setting :=
  .standard .generic "impostor" "ImpostorDomain" (type .word16)
    (fun _ (v : UInt16) => v == 0)
    (fun _ (v : UInt16) => if v = 16 then .resourceBusy else .unknown)

/-- One value, which is a failure. -/
def unit : Domain setting :=
  .standard (.ofNum 0x11) "unit" "UnitDomain" (type .unit)
    (fun _ _ => false) (fun _ _ => .unknown)

/-- Blocks of bytes; only the block of zeros is success. -/
def block : Domain setting :=
  .standard (.ofNum 0x12) "block" "BlockDomain" (type .block)
    (fun _ (v : Block) => v == Block.zero) (fun _ _ => .unknown)

/-- Pairs of numbers, which should be equal. -/
def span : Domain setting :=
  .standard (.ofNum 0x13) "span" "SpanDomain" (type .span)
    (fun _ (v : UInt64 × UInt64) => v.1 == v.2)
    (fun _ (v : UInt64 × UInt64) =>
      if v.2 < v.1 then .resultOutOfRange
      else if v.1 = v.2 then .success
      else .unknown)

/-- Truth values: done, or called off. -/
def flag : Domain setting :=
  .standard (.ofNum 0xffffffffffffffffffffffffffffffff) "flag" "FlagDomain" (type .flag)
    (fun _ (v : Bool) => v)
    (fun _ (v : Bool) => if v then .success else .operationCanceled)

/-- Odd numbers; the even ones are success. -/
def odd : Domain setting :=
  .standard (.ofNum 0x14) "odd" "OddDomain" (type .odd)
    (fun _ (v : Odd) => v.number % 2 == 0)
    (fun _ (v : Odd) => if v.number = 7 then .timedOut else .unknown)

/-- Conditions under another identity than that of the generic domain. -/
def echo : Domain setting :=
  .standard (.ofNum 0x15) "mirror" "MirrorDomain" .condition
    (fun _ (v : Condition) => v == .timedOut) (fun _ _ => .unknown)

/-- The domain of the first table. -/
def t0 : Domain setting :=
  tableDomain (.ofNum 0x7ab1e000000040008000000000000000) "t0" Tables.t0

/-- The domain of the second table. -/
def t1 : Domain setting :=
  tableDomain (.ofNum 0x7ab1e000000040008000000000000001) "t1" Tables.t1

/-- The identity and the values of `t0` with the default rule; all of them are success,
and out of time. No request calls this domain by a name. -/
def shadow : Domain setting :=
  .standard t0.id "shadow" "ShadowDomain" t0.type (fun _ _ => true) (fun _ _ => .timedOut)

/-! ## The catalogue -/

/-- Every domain that a request can call, under the name by which it does. -/
def domains : List (String × Domain setting) := [
  ("generic", .generic), ("http", http), ("raw", raw), ("label", label), ("wide", wide),
  ("exit", exit), ("signal", signal), ("twin", twin), ("alias", namesake), ("impostor", impostor),
  ("unit", unit), ("block", block), ("span", span), ("flag", flag), ("odd", odd),
  ("mirror", echo), ("t0", t0), ("t1", t1)]

/-- The domain with a given name. -/
def domain? (name : String) : Option (Domain setting) :=
  domains.lookup name

/-- How deep the rules of the catalogue ask: a table rule asks what the other
side recognises, which may again ask, of a generic condition that no longer
does. -/
def depth : Nat := 2

end TaggedStatus.Catalog
