import PoolLint.Syntax.Position

/-! Concrete syntax trees: every construct of a source file with its text, its place and its parts
in order, words and marks of the grammar included. -/
namespace PoolLint.Syntax

inductive Kind where
  -- words, marks and layout
  | mark
  | comment
  | lineContinuation
  -- names and literals
  | identifier
  | integer
  | float
  | true
  | false
  | none
  | ellipsis
  | string
  | stringContent
  | concatenatedString
  | interpolation
  | formatSpecifier
  | typeConversion
  -- expressions
  | attribute
  | subscript
  | slice
  | call
  | argumentList
  | keywordArgument
  | listSplat
  | dictionarySplat
  | parenthesized
  | tuple
  | list
  | set
  | dictionary
  | pair
  | generatorExpression
  | listComprehension
  | setComprehension
  | dictionaryComprehension
  | forInClause
  | ifClause
  | unaryOperator
  | binaryOperator
  | booleanOperator
  | notOperator
  | comparisonOperator
  | lambda
  | conditionalExpression
  | namedExpression
  | asPattern
  | await
  | yield
  | expressionList
  -- targets and parameters
  | listSplatPattern
  | dictionarySplatPattern
  | parameters
  | defaultParameter
  | typedParameter
  | typedDefaultParameter
  | keywordSeparator
  | positionalSeparator
  | type
  | splatType
  | constrainedType
  | typeParameter
  -- simple statements
  | expressionStatement
  | assignment
  | augmentedAssignment
  | returnStatement
  | deleteStatement
  | raiseStatement
  | passStatement
  | breakStatement
  | continueStatement
  | globalStatement
  | nonlocalStatement
  | importStatement
  | importFromStatement
  | futureImportStatement
  | dottedName
  | aliasedImport
  | relativeImport
  | wildcardImport
  | assertStatement
  | printStatement
  | chevron
  | execStatement
  | typeAliasStatement
  -- compound statements
  | module
  | block
  | decoratedDefinition
  | decorator
  | functionDefinition
  | classDefinition
  | ifStatement
  | elifClause
  | elseClause
  | forStatement
  | whileStatement
  | tryStatement
  | exceptClause
  | finallyClause
  | withStatement
  | withClause
  | withItem
  | matchStatement
  | caseClause
  -- patterns of case clauses
  | classPattern
  | splatPattern
  | unionPattern
  | listCasePattern
  | tupleCasePattern
  | dictPattern
  | keyValuePattern
  | keywordPattern
  | complexPattern
  deriving DecidableEq, Repr, Inhabited

/-- The name of a kind of expression. Kinds that never stand where a value is read have none. -/
def Kind.name : Kind → String
  | .lineContinuation => "line_continuation"
  | .identifier => "identifier"
  | .integer => "integer"
  | .float => "float"
  | .true => "true"
  | .false => "false"
  | .none => "none"
  | .ellipsis => "ellipsis"
  | .string => "string"
  | .concatenatedString => "concatenated_string"
  | .attribute => "attribute"
  | .subscript => "subscript"
  | .call => "call"
  | .listSplat => "list_splat"
  | .dictionarySplat => "dictionary_splat"
  | .parenthesized => "parenthesized_expression"
  | .tuple => "tuple"
  | .list => "list"
  | .set => "set"
  | .dictionary => "dictionary"
  | .generatorExpression => "generator_expression"
  | .listComprehension => "list_comprehension"
  | .setComprehension => "set_comprehension"
  | .dictionaryComprehension => "dictionary_comprehension"
  | .unaryOperator => "unary_operator"
  | .binaryOperator => "binary_operator"
  | .booleanOperator => "boolean_operator"
  | .notOperator => "not_operator"
  | .comparisonOperator => "comparison_operator"
  | .lambda => "lambda"
  | .conditionalExpression => "conditional_expression"
  | .namedExpression => "named_expression"
  | .asPattern => "as_pattern"
  | .await => "await"
  | .yield => "yield"
  | _ => ""

/-- The part that a node plays in the construct around it. -/
inductive Role where
  | plain
  | function
  | arguments
  | name
  | newName
  | moduleName
  | key
  | value
  | operator
  | operand
  | left
  | right
  | type
  | body
  | parameters
  | condition
  | alternative
  deriving DecidableEq, Repr, Inhabited

inductive Node where
  | mk (kind : Kind) (role : Role) (text : String) (span : Span) (children : List Node)
  deriving Repr, Inhabited

namespace Node

def kind : Node → Kind
  | .mk kind _ _ _ _ => kind

def role : Node → Role
  | .mk _ role _ _ _ => role

def text : Node → String
  | .mk _ _ text _ _ => text

def span : Node → Span
  | .mk _ _ _ span _ => span

def children : Node → List Node
  | .mk _ _ _ _ children => children

section Parts
variable (kind : Kind) (role : Role) (text : String) (span : Span) (children : List Node)

@[simp] theorem kind_mk : (mk kind role text span children).kind = kind := rfl

@[simp] theorem role_mk : (mk kind role text span children).role = role := rfl

@[simp] theorem text_mk : (mk kind role text span children).text = text := rfl

@[simp] theorem span_mk : (mk kind role text span children).span = span := rfl

@[simp] theorem children_mk : (mk kind role text span children).children = children := rfl

end Parts

def withRole (role : Role) : Node → Node
  | .mk kind _ text span children => .mk kind role text span children

def withKind (kind : Kind) : Node → Node
  | .mk _ role text span children => .mk kind role text span children

/-- Words and marks of the grammar have no name of their own. -/
def isNamed (n : Node) : Bool := n.kind != .mark

def namedChildren (n : Node) : List Node := n.children.filter isNamed

/-- The first child in a role. -/
def child? (n : Node) (role : Role) : Option Node := n.children.find? (·.role == role)

/-- All children in a role, in order. -/
def childrenIn (n : Node) (role : Role) : List Node := n.children.filter (·.role == role)

/-- The entries of a list of arguments or of a record: the named parts that are no comments. -/
def entries (n : Node) : List Node := n.namedChildren.filter (·.kind != .comment)

mutual

/-- How many nodes a tree has. -/
def size : Node → Nat
  | .mk _ _ _ _ children => sizeAll children + 1

def sizeAll : List Node → Nat
  | [] => 0
  | n :: rest => size n + sizeAll rest

end

/-- Visits the nodes that wait in order, the parts of a node before the nodes behind it. Nothing is
visited inside a node that is not entered. -/
def visit (enters : Node → Bool) : Nat → List Node → List Node
  | 0, _ => []
  | _ + 1, [] => []
  | fuel + 1, n :: waiting =>
    n :: visit enters fuel (if enters n then n.children ++ waiting else waiting)

/-- The nodes of a tree, each before the nodes in it, siblings in order. -/
def walk (enters : Node → Bool) (root : Node) : List Node := visit enters root.size [root]

/-- The nodes of one kind, outer ones before the ones in them. -/
def ofKind (kind : Kind) (root : Node) : List Node :=
  (walk (fun _ => .true) root).filter (·.kind == kind)

end Node
end PoolLint.Syntax
