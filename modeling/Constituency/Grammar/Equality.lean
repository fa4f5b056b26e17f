import Constituency.Grammar.Expr

/-!
# Equality of bodies

Bodies are compared part by part. Terminals are equal when their pattern texts are, which is
equality of tag patterns.
-/
namespace Constituency

variable {ρ : Type} [DecidableEq ρ]

namespace Expr

mutual

def decEq : (a b : Expr ρ) → Decidable (a = b)
  | .terminal p, .terminal q => decidable_of_iff (p = q) (by simp)
  | .ref r, .ref s => decidable_of_iff (r = s) (by simp)
  | .seq xs, .seq ys =>
    match decEqAll xs ys with
    | .isTrue same => .isTrue (by rw [same])
    | .isFalse different => .isFalse (by simp [different])
  | .opt a, .opt b =>
    match decEq a b with
    | .isTrue same => .isTrue (by rw [same])
    | .isFalse different => .isFalse (by simp [different])
  | .star a, .star b =>
    match decEq a b with
    | .isTrue same => .isTrue (by rw [same])
    | .isFalse different => .isFalse (by simp [different])
  | .plus a, .plus b =>
    match decEq a b with
    | .isTrue same => .isTrue (by rw [same])
    | .isFalse different => .isFalse (by simp [different])
  | .longest xs, .longest ys =>
    match decEqAll xs ys with
    | .isTrue same => .isTrue (by rw [same])
    | .isFalse different => .isFalse (by simp [different])
  | .terminal _, .ref _ | .terminal _, .seq _ | .terminal _, .opt _ | .terminal _, .star _
  | .terminal _, .plus _ | .terminal _, .longest _
  | .ref _, .terminal _ | .ref _, .seq _ | .ref _, .opt _ | .ref _, .star _
  | .ref _, .plus _ | .ref _, .longest _
  | .seq _, .terminal _ | .seq _, .ref _ | .seq _, .opt _ | .seq _, .star _
  | .seq _, .plus _ | .seq _, .longest _
  | .opt _, .terminal _ | .opt _, .ref _ | .opt _, .seq _ | .opt _, .star _
  | .opt _, .plus _ | .opt _, .longest _
  | .star _, .terminal _ | .star _, .ref _ | .star _, .seq _ | .star _, .opt _
  | .star _, .plus _ | .star _, .longest _
  | .plus _, .terminal _ | .plus _, .ref _ | .plus _, .seq _ | .plus _, .opt _
  | .plus _, .star _ | .plus _, .longest _
  | .longest _, .terminal _ | .longest _, .ref _ | .longest _, .seq _ | .longest _, .opt _
  | .longest _, .star _ | .longest _, .plus _ => .isFalse (by simp)

def decEqAll : (as bs : List (Expr ρ)) → Decidable (as = bs)
  | [], [] => .isTrue rfl
  | [], _ :: _ => .isFalse (by simp)
  | _ :: _, [] => .isFalse (by simp)
  | a :: as, b :: bs =>
    match decEq a b, decEqAll as bs with
    | .isTrue same, .isTrue others => .isTrue (by rw [same, others])
    | .isFalse different, _ => .isFalse (by simp [different])
    | _, .isFalse different => .isFalse (by simp [different])

end

instance : DecidableEq (Expr ρ) := decEq

end Expr

instance : DecidableEq (Rule ρ) := fun a b =>
  decidable_of_iff (a.name = b.name ∧ a.body = b.body) (by cases a; cases b; simp)

end Constituency
