import MiniVpn.Go.Runtime

/-! # `strings.Split` and `strconv.Atoi`

The two library functions the remote-options parser is built from. `strings.Split` with a
one-byte separator cuts a string at every occurrence of it, so `n` separators give `n + 1`
fields, empty ones included. `strconv.Atoi` on a 64-bit platform accepts an optional sign and
at least one decimal digit whose value fits an `int64`; its error is `ErrRange` when the digits
scanned so far already overflow a `uint64` or the value leaves the `int64` range, and
`ErrSyntax` otherwise, as `ParseUint` and `ParseInt` decide it.
-/

namespace MiniVpn

/-- The fields of a character list cut at every `sep`. -/
def splitChars (sep : Char) : List Char → List (List Char)
  | [] => [[]]
  | c :: cs =>
    if c = sep then [] :: splitChars sep cs
    else match splitChars sep cs with
      | [] => [[c]]
      | field :: fields => (c :: field) :: fields

/-- `strings.Split(s, sep)` for a one-byte separator. -/
def stringsSplit (s : String) (sep : Char) : List String :=
  (splitChars sep s.toList).map String.mk

/-- `math.MaxUint64`, past which `ParseUint`'s digit loop reports a range error. -/
def maxUint64 : Nat := 18446744073709551615

/-- `ParseInt`'s cutoff for 64 bits, `1 << 63`: one past `math.MaxInt64`. -/
def int64Cutoff : Nat := 9223372036854775808

/-- The digit loop of `strconv.ParseUint(s, 10, 64)`: the first byte that is not a decimal
digit is a syntax error, and an accumulated value past `math.MaxUint64` a range error. -/
def parseUintDigits (s0 : String) : Nat → List Char → Except GoError Nat
  | n, [] => .ok n
  | n, c :: cs =>
    if c.isDigit then
      if n * 10 + (c.toNat - '0'.toNat) > maxUint64 then .error (.numRange s0)
      else parseUintDigits s0 (n * 10 + (c.toNat - '0'.toNat)) cs
    else .error (.numSyntax s0)

/-- `strconv.Atoi` with a 64-bit `int`. -/
def atoi (s : String) : Except GoError Int :=
  let (neg, digits) : Bool × List Char := match s.toList with
    | '-' :: rest => (true, rest)
    | '+' :: rest => (false, rest)
    | cs => (false, cs)
  if digits.isEmpty then .error (.numSyntax s)
  else match parseUintDigits s 0 digits with
    | .error err => .error err
    | .ok un =>
      if !neg && un ≥ int64Cutoff then .error (.numRange s)
      else if neg && un > int64Cutoff then .error (.numRange s)
      else .ok (if neg then -(un : Int) else un)

example : atoi "1500" = .ok 1500 := by decide
example : atoi "-7" = .ok (-7) := by decide
example : atoi "15x" = .error (.numSyntax "15x") := by decide
example : stringsSplit "a,,b" ',' = ["a", "", "b"] := by decide

end MiniVpn
