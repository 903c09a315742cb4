/-
The canonical form of a text: characters are written out as plain ones with their marks, syllables of Hangul as their
letters, and marks behind a character come in the order of their classes. Texts that look the same because one has
composed characters where the other has marks have one canonical form.

Some composed characters are letters of their own in dictionaries; `compose` puts these together again.
-/
import EnquiryMail.Text.Canonical.Classes
import EnquiryMail.Text.Canonical.Decompositions
import EnquiryMail.Text.Table

namespace EnquiryMail.Text.Canonical

/-- characters with what they are written out as -/
def decompositions : List (Nat × List Nat) := (Table.allPieces decompositionTable).map Table.entry

/-- runs of marks with their class -/
def classes : List (Nat × Table.Run) :=
  (Table.headed classTable).flatMap fun (head, runs) => runs.map fun r => (hexNumber head, .read r)

/-- the class of a mark; other characters have class 0 -/
def classOf (n : Nat) : Nat :=
  if n < 0x300 then 0 else ((classes.find? fun e => (e.2.place? n).isSome).map (·.1)).getD 0

/-- the letters of a syllable of Hangul -/
def hangul (n : Nat) : List Nat :=
  let i := n - 0xAC00
  let letters := [0x1100 + i / 588, 0x1161 + i % 588 / 28]
  if i % 28 = 0 then letters else letters ++ [0x11A7 + i % 28]

/-- what a character is written out as -/
def decompose (n : Nat) : List Nat :=
  if n < 0xC0 then [n]
  else if 0xAC00 ≤ n ∧ n ≤ 0xD7A3 then hangul n
  else (decompositions.lookup n).getD [n]

/-- puts a mark in front of a text, behind the marks of lower classes -/
def place (n : Nat) : List Nat → List Nat
  | [] => [n]
  | m :: rest => if classOf m ≠ 0 ∧ classOf m < classOf n then m :: place n rest else n :: m :: rest

/-- the canonical form of a text -/
def decomposed (cs : List Char) : List Nat := (cs.flatMap fun c => decompose c.toNat).foldr place []

/-! ## Letters of their own -/

/-- pairs of characters that are one letter together -/
def compositionTable : List String :=
  ["418.306=419 438.306=439 627.653=622 627.654=623 627.655=625 648.654=624 64a.654=626 9c7.9be=9cb",
   "9c7.9d7=9cc b47.b3e=b4b b47.b56=b48 b47.b57=b4c b92.bd7=b94 bc6.bbe=bca bc6.bd7=bcc bc7.bbe=bcb",
   "c46.c56=c48 cbf.cd5=cc0 cc6.cc2=cca cc6.cd5=cc7 cc6.cd6=cc8 cca.cd5=ccb d46.d3e=d4a d46.d57=d4c",
   "d47.d3e=d4b dd9.dca=dda dd9.dcf=ddc dd9.ddf=dde ddc.dca=ddd e4d.e32=e33 ecd.eb2=eb3 f71.f72=f73",
   "f71.f74=f75 f71.f80=f81 fb2.f80=f76 fb3.f80=f78 1025.102e=1026 1b05.1b35=1b06 1b07.1b35=1b08",
   "1b09.1b35=1b0a 1b0b.1b35=1b0c 1b0d.1b35=1b0e 1b11.1b35=1b12 1b3a.1b35=1b3b 1b3c.1b35=1b3d 1b3e.1b35=1b40",
   "1b3f.1b35=1b41 1b42.1b35=1b43 105d2.307=105c9 105da.307=105e4 11131.11127=1112e 11132.11127=1112f",
   "11347.1133e=1134b 11347.11357=1134c 11382.113c9=11383 11384.113bb=11385 1138b.113c2=1138e",
   "11390.113c9=11391 113c2.113b8=113c7 113c2.113c2=113c5 113c2.113c9=113c8 114b9.114b0=114bc",
   "114b9.114ba=114bb 114b9.114bd=114be 115b8.115af=115ba 115b9.115af=115bb 11935.11930=11938",
   "1611e.1611e=16121 1611e.1611f=16123 1611e.16120=16125 1611e.16129=16122 16121.1611f=16126",
   "16121.16120=16128 16122.1611f=16127 16129.1611f=16124 16d63.16d67=16d69 16d67.16d67=16d68",
   "16d69.16d67=16d6a"]

/-- pairs of characters with the letter that they are together -/
def compositions : List (List Nat × Nat) :=
  (Table.allPieces compositionTable).map fun piece =>
    let (pair, letter) := Table.splitAt '=' piece
    (Table.points pair, hexNumber letter)

/-- the letter that two characters are together -/
def composite? (m n : Nat) : Option Nat := if n < 0x300 then none else compositions.lookup [m, n]

/-- puts letters together behind a character and the marks that have been read behind it, the newest first; a mark of
its class or a higher one stands between a mark and the character -/
def composeFrom (start : Nat) (between : List Nat) : List Nat → List Nat
  | [] => start :: between.reverse
  | n :: rest =>
    let isApart := between.head?.any fun m => classOf n ≤ classOf m
    match if isApart then none else composite? start n with
    | some letter => composeFrom letter between rest
    | none =>
      if classOf n = 0 then start :: between.reverse ++ composeFrom n [] rest
      else composeFrom start (n :: between) rest

/-- puts together what is one letter -/
def compose : List Nat → List Nat
  | [] => []
  | n :: rest => composeFrom n [] rest

end EnquiryMail.Text.Canonical
