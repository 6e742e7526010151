import WebhookRelay.Python.Builtins

/-!
# Python values of JSON shape

`PyValue` is what `json.loads` returns and what the code keeps in its `Any`-typed maps
(`WebhookMessage.metadata`, request and audit payloads). A float is kept as its `repr`:
the code prints one, and compares one with an `int`, which reads the value off the `repr`.
The object operations the code uses, `v.get(k, d)`, `v[0]`, `v[-1]`, `v[k]` and `v > n`, raise
on every value of the wrong type, each with the exception CPython raises there, since which of
them the code catches decides its behaviour.
-/

namespace WebhookRelay.Python

/-- A Python value built from JSON: `None`, `bool`, `int`, `float`, `str`, `list`, `dict`. -/
inductive PyValue where
  | none
  | bool (b : Bool)
  | int (i : Int)
  | float (repr : String)
  | str (s : String)
  | list (xs : List PyValue)
  | dict (items : List (String × PyValue))
  deriving Inhabited

/-- The exceptions the modelled code raises or catches. -/
inductive PyException where
  | jsonDecodeError
  | indexError
  | keyError
  | typeError
  | attributeError
  deriving DecidableEq, Repr

namespace PyValue

/-- `bool(v)`. -/
def truthy : PyValue → Bool
  | none => false
  | bool b => b
  | int i => i != 0
  | float r => r != "0.0" && r != "-0.0"
  | str s => s != ""
  | list xs => !xs.isEmpty
  | dict items => !items.isEmpty

/-- `v.get(k, default)`: only a `dict` has the attribute. -/
def get (v : PyValue) (k : String) (default : PyValue) : Except PyException PyValue :=
  match v with
  | dict items => .ok ((lookup items k).getD default)
  | _ => .error .attributeError

/-- `v[0]`. A JSON object's keys are strings, so `0` is never one of them. -/
def getItemZero : PyValue → Except PyException PyValue
  | list [] => .error .indexError
  | list (x :: _) => .ok x
  | str s =>
    match s.toList with
    | [] => .error .indexError
    | c :: _ => .ok (str (String.singleton c))
  | dict _ => .error .keyError
  | _ => .error .typeError

/-- `v[-1]`. -/
def getItemLast : PyValue → Except PyException PyValue
  | list xs =>
    match xs.getLast? with
    | .some x => .ok x
    | .none => .error .indexError
  | str s =>
    match s.toList.getLast? with
    | .some c => .ok (str (String.singleton c))
    | .none => .error .indexError
  | dict _ => .error .keyError
  | _ => .error .typeError

/-- On a truthy value `v[-1]` is never out of range: it raises only `KeyError` (a dict) or
`TypeError` (a scalar). -/
theorem getItemLast_eq_error {v : PyValue} {e : PyException} (hv : v.truthy)
    (h : v.getItemLast = .error e) : e = .keyError ∨ e = .typeError := by
  cases v with
  | list xs => cases hx : xs.getLast? <;> simp_all [truthy, getItemLast]
  | str s =>
    obtain ⟨l⟩ := s
    cases hl : l.getLast? <;> simp_all [truthy, getItemLast, String.ext_iff]
  | _ => simp_all [truthy, getItemLast]

/-- `v[-1]` is a dict exactly when `v` is a list whose last entry is that dict. -/
theorem getItemLast_eq_ok_dict {v : PyValue} {items : List (String × PyValue)} :
    v.getItemLast = .ok (.dict items) ↔ ∃ xs, v = .list xs ∧ xs.getLast? = some (.dict items) := by
  cases v with
  | list xs => cases h : xs.getLast? <;> simp [getItemLast, h]
  | str s =>
    obtain ⟨l⟩ := s
    cases h : l.getLast? <;> simp [getItemLast, h]
  | _ => simp [getItemLast]

theorem get_eq_error {v : PyValue} {k : String} {d : PyValue} {e : PyException}
    (h : v.get k d = .error e) : e = .attributeError := by
  cases v <;> simp_all [get]

theorem get_eq_ok {v : PyValue} {k : String} {d x : PyValue} :
    v.get k d = .ok x ↔ ∃ items, v = dict items ∧ (lookup items k).getD d = x := by
  cases v <;> simp [get]

/-- `v[k]` for a string `k`: a list or a string wants an integer index, and the other
scalars are not subscriptable. -/
def getItem (v : PyValue) (k : String) : Except PyException PyValue :=
  match v with
  | dict items =>
    match lookup items k with
    | .some x => .ok x
    | .none => .error .keyError
  | _ => .error .typeError

theorem getItem_eq_ok {v : PyValue} {k : String} {x : PyValue} :
    v.getItem k = .ok x ↔ ∃ items, v = dict items ∧ lookup items k = some x := by
  cases v <;> simp only [getItem, reduceCtorEq, false_and, exists_false, iff_false, dict.injEq,
    exists_eq_left']
  split <;> simp_all

theorem getItem_eq_error {v : PyValue} {k : String} {e : PyException}
    (h : v.getItem k = .error e) : e = .keyError ∨ e = .typeError := by
  cases v <;> simp_all [getItem]
  split at h <;> simp_all

/-- The digits of a float's `repr` before its exponent, with or without a point, as
`(m, e)` for the value `m * 10 ^ e`. -/
def decimalOfMantissa (s : String) (e : Int) : Option (Int × Int) :=
  match split s '.' with
  | [whole] => whole.toInt?.map (·, e)
  | [whole, frac] => (whole ++ frac).toInt?.map (·, e - frac.length)
  | _ => .none

/-- A finite float's `repr` (`20971520.0`, `-0.5`, `1.5e-05`, `1e+16`) as `(m, e)` for the
value `m * 10 ^ e`. -/
def decimalOfRepr (r : String) : Option (Int × Int) :=
  match split r 'e' with
  | [mantissa] => decimalOfMantissa mantissa 0
  | [mantissa, exp] => (String.mk (exp.toList.dropWhile (· == '+'))).toInt? >>=
      decimalOfMantissa mantissa
  | _ => .none

/-- `x > n` for the float whose `repr` is `r`: by exact value, with `nan` greater than
nothing. -/
def floatGtInt (r : String) (n : Int) : Bool :=
  if r = "inf" then true
  else
    match decimalOfRepr r with
    | .some (m, e) => if 0 ≤ e then n < m * Int.pow 10 e.toNat else n * Int.pow 10 (-e).toNat < m
    | .none => false

/-- `v > n` for an `int` `n`: a number compares by value, `bool` as `0` and `1`, and the
other values raise `TypeError`. -/
def gtInt (v : PyValue) (n : Int) : Except PyException Bool :=
  match v with
  | bool b => .ok (n < if b then 1 else 0)
  | int i => .ok (n < i)
  | float r => .ok (floatGtInt r n)
  | _ => .error .typeError

/-- Two lowercase hex digits, as in a `\xNN` escape. -/
def hexByte (n : Nat) : String :=
  let d := Nat.toDigits 16 n
  ⟨List.replicate (2 - d.length) '0' ++ d⟩

/-- One character of `repr(s)`, quoted with `q`. Characters past ASCII are kept as they
are, where CPython escapes those `str.isprintable` rejects. -/
def reprChar (q c : Char) : String :=
  if c = q ∨ c = '\\' then ⟨['\\', c]⟩
  else if c = '\t' then "\\t"
  else if c = '\n' then "\\n"
  else if c = '\r' then "\\r"
  else if c.toNat < 0x20 ∨ c.toNat = 0x7f then "\\x" ++ hexByte c.toNat
  else String.singleton c

/-- `repr(s)` of a `str`: single quotes unless only double quotes avoid an escape. -/
def reprStr (s : String) : String :=
  let q := if '\'' ∈ s.toList ∧ '"' ∉ s.toList then '"' else '\''
  String.singleton q ++ String.join (s.toList.map (reprChar q)) ++ String.singleton q

mutual
/-- `repr(v)`. -/
def repr : PyValue → String
  | none => "None"
  | bool b => if b then "True" else "False"
  | int i => toString i
  | float r => r
  | str s => reprStr s
  | list xs => "[" ++ reprList xs ++ "]"
  | dict items => "\x7b" ++ reprItems items ++ "\x7d"
/-- The items of a list `repr`, comma separated. -/
def reprList : List PyValue → String
  | [] => ""
  | [x] => repr x
  | x :: xs => repr x ++ ", " ++ reprList xs
/-- The items of a dict `repr`, comma separated. -/
def reprItems : List (String × PyValue) → String
  | [] => ""
  | [(k, v)] => reprStr k ++ ": " ++ repr v
  | (k, v) :: items => reprStr k ++ ": " ++ repr v ++ ", " ++ reprItems items
end

/-- `str(v)`: a string is itself, everything else its `repr`. -/
def toStr : PyValue → String
  | str s => s
  | v => repr v

end PyValue

end WebhookRelay.Python
