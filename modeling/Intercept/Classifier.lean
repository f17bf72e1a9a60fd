import Intercept.Blocker
import Intercept.Mocker
import Intercept.Text.Quoted

/-!
# Intercept.Classifier -- strategies and chains of them

A classifier is a blocker, a mocker, a fixed verdict, or a named chain of classifiers. In a chain
the first member that does anything decides; where none does, neither does the chain.
-/

namespace Intercept

/-- A way to decide about requests. -/
inductive Classifier
  | blocker (b : Blocker)
  | mocker (m : Mocker)
  | constant (v : Verdict)
  | chain (name : String) (members : List Classifier)
deriving Repr

namespace Classifier

mutual

/-- What a classifier decides about a request. -/
def classify : Classifier → Request → Verdict
  | .blocker b, r => b.classify r
  | .mocker m, r => m.classify r
  | .constant v, _ => v
  | .chain _ members, r => classifyFirst members r

/-- The first decision that does anything. -/
def classifyFirst : List Classifier → Request → Verdict
  | [], _ => .untouched
  | c :: rest, r =>
    let v := c.classify r
    if v.isUntouched then classifyFirst rest r else v

end

/-- A chain as it is shown: its name between quotes and the number of its members. -/
def showChain (name : String) (size : Nat) : String :=
  "RequestClassifier \x7b name: " ++ String.ofList (Text.quoted name.toList)
    ++ ", strategies: " ++ toString size ++ " \x7d"

end Classifier

end Intercept
