/-
This file measures how far two vectors point apart.

Components are single-precision numbers; sums, products and the quotient are formed in double
precision and the result is rounded back. One square root over the product of the norms keeps a
vector at a quotient of exactly one with itself.
-/

import RecordQuery.Number.Arithmetic

namespace RecordQuery.Cosine

open Number

/-- The distance of vectors that cannot be compared: the greatest single-precision number. -/
def greatestDistance : Single :=
  Binary.greatest

/-- The running sums over the components of two vectors. -/
structure Sums where
  product : Double := 0
  leftSquare : Double := 0
  rightSquare : Double := 0

/-- The sums with one more pair of components. -/
def Sums.add (sums : Sums) (components : Single × Single) : Sums :=
  let left : Double := components.1.convert
  let right : Double := components.2.convert
  { product := sums.product + left * right
    leftSquare := sums.leftSquare + left * left
    rightSquare := sums.rightSquare + right * right }

/-- The cosine distance that belongs to the sums over two vectors. It is one if a norm is zero. -/
def Sums.distance (sums : Sums) : Single :=
  let norm := (sums.leftSquare * sums.rightSquare).sqrt
  if norm.isZero then 1
  else
    let cosine := (sums.product / norm).clamp (-1) 1
    (1 - cosine : Double).convert

/-- One minus the cosine of the angle between two vectors. Vectors that are absent or differ in
length are as far apart as can be. -/
def distance : Option (List Single) → Option (List Single) → Single
  | some left, some right =>
    if left.length = right.length then ((left.zip right).foldl Sums.add {}).distance
    else greatestDistance
  | _, _ => greatestDistance

/-- The cosine similarity of two vectors: one minus their distance. -/
def similarity (left right : Option (List Single)) : Single :=
  1 - distance left right

end RecordQuery.Cosine
