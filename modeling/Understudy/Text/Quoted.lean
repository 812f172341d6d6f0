import Understudy.Text.Hidden

/-!
# Quoted texts

A text quoted for a message stands between double quotes. A quote and a
backslash take a backslash, tab, line feed, carriage return and NUL have short
escapes, and every other hidden character is written as its code point in
braces. All else stands for itself. So a quoted text stands on one line
(`newline_not_mem_quote`).
-/

set_option autoImplicit false

namespace Understudy.Text

def escapeChar (c : Char) : List Char :=
  if c = '\x00' then ['\\', '0']
  else if c = '\t' then ['\\', 't']
  else if c = '\n' then ['\\', 'n']
  else if c = '\r' then ['\\', 'r']
  else if c = '"' || c = '\\' then ['\\', c]
  else if isHidden c then "\\u\x7b".toList ++ Nat.toDigits 16 c.toNat ++ ['\x7d']
  else [c]

def quote (s : String) : String :=
  String.ofList ('"' :: s.toList.flatMap escapeChar ++ ['"'])

example : quote "\uff9e\u3164" = "\"\uff9e\\u\x7b3164\x7d\"" := by decide +kernel

example : quote "tab\t \"q\" \\ é\u00a0" = "\"tab\\t \\\"q\\\" \\\\ é\\u\x7ba0\x7d\"" := by
  decide +kernel

theorem newline_not_mem_digits {base n : Nat} (hbase : 1 < base) (hsmall : base ≤ 16) :
    '\n' ∉ Nat.toDigits base n := by
  have hdigit : ∀ d < 16, '\n' ≠ Nat.digitChar d := by decide
  induction n using Nat.strongRecOn with
  | ind n ih =>
    rw [Nat.toDigits_eq_if hbase]
    by_cases hn : n < base
    · have hd := hdigit n (by omega)
      simp [hn, hd]
    · have hrest := ih (n / base) (Nat.div_lt_self (by omega) hbase)
      have hd := hdigit (n % base) (Nat.lt_of_lt_of_le (Nat.mod_lt n (by omega)) hsmall)
      simp [hn, hrest, hd]

theorem newline_not_mem_escapeChar (c : Char) : '\n' ∉ escapeChar c := by
  have hdigits : '\n' ∉ Nat.toDigits 16 c.toNat := newline_not_mem_digits (by decide) (by decide)
  unfold escapeChar
  by_cases hfeed : c = '\n'
  · simp [hfeed]
  · repeat' split
    all_goals simp [hdigits, Ne.symm hfeed]

theorem newline_not_mem_quote (s : String) : '\n' ∉ (quote s).toList := by
  simp [quote, newline_not_mem_escapeChar]

end Understudy.Text
