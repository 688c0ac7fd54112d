import Predictive.Text.Ranges
/-!
# Set operations on ranges

The operations go through their lists once and give ascending ranges of which no two overlap or
touch. The surrogates are no characters, so the step from one character to the next leaves them out.
-/
namespace Predictive

namespace Ranges

/-- Every character. -/
def all : Ranges := [(0, 0x10FFFF)]

def single (c : Char) : Ranges := [(c.toNat, c.toNat)]

/-- The code point of the next character. -/
def after (n : Nat) : Nat := if n = 0xD7FF then 0xE000 else n + 1

/-- The code point of the character before. -/
def before (n : Nat) : Nat := if n = 0xE000 then 0xD7FF else n - 1

/-- Joins ranges that ascend by their lower ends wherever they overlap or touch. The two numbers are
the ends of the range that is still growing. -/
def joinFrom (low high : Nat) : Ranges → Ranges
  | [] => [(low, high)]
  | r :: rest =>
    if r.1 ≤ high + 1 then joinFrom low (Nat.max high r.2) rest
    else (low, high) :: joinFrom r.1 r.2 rest

def join : Ranges → Ranges
  | [] => []
  | r :: rest => joinFrom r.1 r.2 rest

/-- The ranges of both lists in the order of their lower ends. -/
def merge : Ranges → Ranges → Ranges
  | [], b => b
  | r :: a, b =>
    b.takeWhile (fun s => s.1 < r.1) ++ r :: merge a (b.dropWhile (fun s => s.1 < r.1))

def union (a b : Ranges) : Ranges := join (merge a b)

def unions (sets : List Ranges) : Ranges := join (sets.foldr merge [])

/-- The part of a range that lies in another one. -/
def clip (r s : Nat × Nat) : Option (Nat × Nat) :=
  if Nat.max r.1 s.1 ≤ Nat.min r.2 s.2 then some (Nat.max r.1 s.1, Nat.min r.2 s.2) else none

def inter : Ranges → Ranges → Ranges
  | [], _ => []
  | r :: a, b =>
    let b := b.dropWhile (fun s => s.2 < r.1)
    (b.takeWhile (fun s => s.1 ≤ r.2)).filterMap (clip r) ++ inter a b

/-- The gaps from a code point on. A gap is empty, with its ends the wrong way round, between two
ranges that only the surrogates keep apart. -/
def gapsFrom (low : Nat) : Ranges → Ranges
  | [] => if low ≤ 0x10FFFF then [(low, 0x10FFFF)] else []
  | r :: rest =>
    if r.1 = 0 then gapsFrom (after r.2) rest
    else (low, before r.1) :: gapsFrom (after r.2) rest

def gaps (a : Ranges) : Ranges := gapsFrom 0 a

/-- The complement. Between two ranges that only the surrogates keep apart it has the two characters
at the ends of the gap. -/
def compl (a : Ranges) : Ranges :=
  (gaps a).map (fun r => (Nat.min r.1 r.2, Nat.max r.1 r.2))

def diff (a b : Ranges) : Ranges := inter a (gaps b)

def symmDiff (a b : Ranges) : Ranges := diff (union a b) (inter a b)

end Ranges

end Predictive
