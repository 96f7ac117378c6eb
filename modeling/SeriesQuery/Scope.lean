/-
Evaluation, and the scopes it happens in. `evalIn` gives the value of an
expression when told what each name stands for. Operands are evaluated from
left to right and always fully; the first failure ends the evaluation.

A scope is a list of frames, the innermost first. A frame binds names to
values, or to expressions that are evaluated whenever the name is looked up,
in the frames outside their own. So such an expression never sees itself,
and looking names up ends.
-/
import SeriesQuery.Builtin

namespace SeriesQuery

variable [PatternEngine]

/-- What a name stands for where it is used. -/
abbrev Env := String → Span → Except Failure Value

/-- The names as before, except for one. -/
def Env.bind (env : Env) (name : String) (value : Value) : Env := fun n span =>
  if n = name then .ok value else env n span

namespace Expr

def literalValue : Literal → Value
  | .integer n => .integer n
  | .double x => .double x
  | .duration d => .duration d
  | .string s => .string s
  | .regex p => .string p
  | .boolean b => .boolean b

/-- The text a tag is compared with. -/
def tagText (op : TagOp) (span : Span) : Value → Except Failure String
  | .string s => .ok s
  | v => .error (.type span (.tagValue op v.kind))

/-- The filter of a tag operator. -/
def tagSelector (tag : String) (op : TagOp) (text : String) (span : Span) : Except Failure Filter :=
  match op with
  | .equal => .ok (.tag tag text)
  | .startsWith => .ok (.startsWith tag text)
  | .matching =>
    (Filter.matching? tag text).mapError fun reason => .type span (.pattern text reason)

def selectorElement (span : Span) : Value → Except Failure Filter
  | .selector f => .ok f
  | _ => .error (.type span .selectorElement)

/-- The filter of a selector: its key, if it has one, and its elements. -/
def selectorOf (key : Option String) (elements : List Filter) : Filter :=
  .all ((key.map Filter.key).toList ++ elements)

/-- Where the first of some expressions stands. -/
def firstSpan (span : Span) : List Expr → Span
  | [] => span
  | e :: _ => e.span

mutual

def evalIn (env : Env) : Expr → Except Failure Value
  | literal _ v => .ok (literalValue v)
  | reference span name => env name span
  | list _ items => do
    let vs ← evalAllIn env items
    .ok (.list vs)
  | binary _ op opSpan l r => do
    let a ← evalIn env l
    let b ← evalIn env r
    Value.binary op a b opSpan
  | unary _ op opSpan e => do
    let v ← evalIn env e
    Value.unary op v opSpan
  | group _ e => evalIn env e
  | call span name args =>
    match Builtin.ofName? name with
    | none => .error ⟨span, .unknownFunction name⟩
    | some f =>
      if f.arity ≠ args.length then .error ⟨span, .arity name f.arity args.length⟩
      else do
        let vs ← evalAllIn env args
        (f.apply vs).mapError (Builtin.Fault.at span (firstSpan span args))
  | letIn _ name value body => do
    let v ← evalIn env value
    evalIn (env.bind name v) body
  | tagFilter _ tag op value => do
    let v ← evalIn env value
    let text ← tagText op value.span v
    let f ← tagSelector tag op text value.span
    .ok (.selector f)
  | hasTag _ tag => .ok (.selector (.hasTag tag))
  | selector _ key filters => do
    let fs ← evalElementsIn env filters
    .ok (.selector (selectorOf key fs))

def evalAllIn (env : Env) : List Expr → Except Failure (List Value)
  | [] => .ok []
  | e :: es => do
    let v ← evalIn env e
    let vs ← evalAllIn env es
    .ok (v :: vs)

/-- The elements of a selector; each has to be a filter before the next is evaluated. -/
def evalElementsIn (env : Env) : List Expr → Except Failure (List Filter)
  | [] => .ok []
  | e :: es => do
    let v ← evalIn env e
    let f ← selectorElement e.span v
    let fs ← evalElementsIn env es
    .ok (f :: fs)

end

end Expr

inductive Binding
  | value (value : Value)
  /-- Evaluated at every use, in the frames outside the one that holds it. -/
  | deferred (expr : Expr)

/-- Bindings of names; the first one of a name counts. -/
abbrev Frame := List (String × Binding)

/-- Frames, the innermost first. -/
abbrev Scope := List Frame

namespace Scope

def empty : Scope := []

/-- What a name stands for. A name of no frame fails where it is used. -/
def lookup : Scope → Env
  | [], name, span => .error ⟨span, .unboundReference name⟩
  | frame :: outer, name, span =>
    match List.lookup name frame with
    | some (.value v) => .ok v
    | some (.deferred e) => e.evalIn (lookup outer)
    | none => lookup outer name span

/-- The innermost binding of a name. -/
def binding? : Scope → String → Option Binding
  | [], _ => none
  | frame :: outer, name => (List.lookup name frame).or (binding? outer name)

/-- Whether a frame binds the name. -/
def contains (scope : Scope) (name : String) : Bool := (scope.binding? name).isSome

/-- The scope with a binding added to its innermost frame. -/
def define (name : String) (binding : Binding) : Scope → Scope
  | [] => [[(name, binding)]]
  | frame :: outer => ((name, binding) :: frame) :: outer

/-- The scope with an empty frame inside it. -/
def child (scope : Scope) : Scope := [] :: scope

end Scope

/-- The value of an expression in a scope. -/
def Expr.eval (scope : Scope) (e : Expr) : Except Failure Value := e.evalIn scope.lookup

end SeriesQuery
