/-
Expressions as filters. Truth values, tag filters, selectors and what
`and`, `or`, `not`, groups and `let` make of them are filters by their form;
a reference, a call or a tag filter is one when its value, in the scope, is
a selector. Nothing else is a filter, and a name without a binding is a
fault of the expression as a filter.
-/
import SeriesQuery.Filter.Normal
import SeriesQuery.Scope

namespace SeriesQuery.Expr

variable [PatternEngine]

/-- A name without a binding makes an expression no filter. -/
def unboundAsFilter (f : Failure) : Failure :=
  match f.cause with
  | .unboundReference name => .notCompilable f.span (.unbound name)
  | _ => f

def valueIn (env : Env) (e : Expr) : Except Failure Value := (e.evalIn env).mapError unboundAsFilter

/-- The filter an expression evaluates to. -/
def selectorIn (env : Env) (e : Expr) : Except Failure Filter := do
  match ← valueIn env e with
  | .selector f => .ok f
  | v => .error (.notCompilable e.span (.notSelector v.kind))

mutual

/-- The filter an expression describes, as it stands. -/
def filterIn (env : Env) : Expr → Except Failure Filter
  | literal span v =>
    match v with
    | .boolean true => .ok .always
    | .boolean false => .ok .never
    | _ => .error (.notCompilable span .literal)
  | reference span name => selectorIn env (reference span name)
  | list span _ => .error (.notCompilable span .list)
  | binary _ op opSpan l r =>
    match op with
    | .and => do
      let f ← filterIn env l
      let g ← filterIn env r
      .ok (.all [f, g])
    | .or => do
      let f ← filterIn env l
      let g ← filterIn env r
      .ok (.any [f, g])
    | op => .error (.notCompilable opSpan (.binary op))
  | unary _ op opSpan e =>
    match op with
    | .not => do
      let f ← filterIn env e
      .ok (.not f)
    | .negate => .error (.notCompilable opSpan (.unary .negate))
  | group _ e => filterIn env e
  | call span name args => selectorIn env (call span name args)
  | letIn _ name value body => do
    let v ← valueIn env value
    filterIn (env.bind name v) body
  | tagFilter span tag op value => selectorIn env (tagFilter span tag op value)
  | hasTag _ tag => .ok (.hasTag tag)
  | selector _ key filters => do
    let fs ← filtersIn env filters
    .ok (selectorOf key fs)

def filtersIn (env : Env) : List Expr → Except Failure (List Filter)
  | [] => .ok []
  | e :: es => do
    let f ← filterIn env e
    let fs ← filtersIn env es
    .ok (f :: fs)

end

/-- The simplified filter an expression describes. -/
def filter (scope : Scope) (e : Expr) : Except Failure Filter := do
  let f ← e.filterIn scope.lookup
  .ok f.normalize

/-- Simplified filters of one series: a key and values of tags, in any order. -/
def seriesParts : Filter → List Filter
  | .all fs => fs
  | f => [f]

/-- Takes the parts of a filter into a key and tags. -/
def seriesOfParts : Option String → SortedMap String → List Filter → Except CompileFault Series
  | none, _, [] => .error .notOneSeries
  | some key, tags, [] => .ok ⟨key, tags⟩
  | none, tags, .key k :: fs => seriesOfParts (some k) tags fs
  | key, tags, .tag t v :: fs =>
    if tags.contains t then .error (.conflictingTag t) else seriesOfParts key (tags.insert t v) fs
  | _, _, _ :: _ => .error .notOneSeries

/-- The series a simplified filter names: one key and at most one value for each tag. -/
def seriesOfFilter (f : Filter) : Except CompileFault Series := do
  let s ← seriesOfParts none .empty (seriesParts f)
  match s.fault? with
  | some fault => .error (.series fault)
  | none => .ok s

/-- The one series an expression names. -/
def series (scope : Scope) (e : Expr) : Except Failure Series := do
  let f ← e.filter scope
  (seriesOfFilter f).mapError (Failure.notCompilable e.span)

end SeriesQuery.Expr
