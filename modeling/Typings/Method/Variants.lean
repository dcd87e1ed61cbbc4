import Typings.Method.Build

/-!
# Variants for Optional Parameters

A source may document an optional parameter in front of a mandatory one,
which a declaration cannot have. Such a method is split: one variant leaves
the first of these parameters out, and in the others it has become mandatory.
So `f(a, b?, c, d?)` has the variants `f(a, c, d?)` and `f(a, b, c, d?)`.

In the variant that leaves a parameter out, everything left of the last
mandatory parameter is mandatory, because only one parameter is left out at a
time.

## Main definitions

* `misplaced?`: The first optional and the last mandatory parameter, where
  the former stands in front of the latter.
* `parameterLists`: The parameter lists of all variants.
* `Method.variants`: The variants of a method.
-/

namespace Typings

/-- The places of the first optional and the last mandatory parameter, where
    the former stands in front of the latter. -/
def misplaced? (parameters : List Api.Parameter) : Option (Nat × Nat) :=
  let first := parameters.findIdx (·.isOptional)
  let behind := parameters.reverse.findIdx (!·.isOptional)
  if behind < parameters.length ∧ first < parameters.length - 1 - behind then
    some (first, parameters.length - 1 - behind)
  else none

/-- A parameter that has become mandatory. -/
def mandatory (p : Api.Parameter) : Api.Parameter :=
  { p with isOptional := false }

/-- Make the parameters in front of a place mandatory. -/
def mandatoryBefore (place : Nat) (parameters : List Api.Parameter) : List Api.Parameter :=
  (parameters.take place).map mandatory ++ parameters.drop place

/-- The parameter lists of all variants, in at most so many steps. Every step
    makes one optional parameter mandatory, so there are no more steps than
    parameters. -/
def parameterListsFrom : Nat → List Api.Parameter → List (List Api.Parameter)
  | 0, parameters => [parameters]
  | fuel + 1, parameters =>
    match misplaced? parameters with
    | none => [parameters]
    | some (first, last) =>
      (mandatoryBefore last parameters).eraseIdx first ::
        parameterListsFrom fuel (parameters.modify first mandatory)

/-- The parameter lists of all variants. -/
def parameterLists (parameters : List Api.Parameter) : List (List Api.Parameter) :=
  parameterListsFrom parameters.length parameters

/-- The variants of a method. -/
def Method.variants (owner : Owner) (raw : Api.Method) (options : BuildOptions) :
    List Method :=
  (parameterLists raw.parameters).map fun parameters =>
    Method.build owner { raw with parameters := parameters } options

end Typings
