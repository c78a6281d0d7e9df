-- SUMMARY: The tokens and rules of Python.
import RefactorAudit.Grammar.Automaton
import RefactorAudit.Python.Spelling

/-!
# The grammar of Python

Python as a grammar value: its tokens in a fixed order, and its rules. The grammar is wider than
the language proper. Words such as `print`, `exec` or `match` are names where the keyword cannot
stand, statements of older versions of the language are read, and a block may be empty.
-/

namespace RefactorAudit.Python

open RefactorAudit.Grammar
open RefactorAudit.Grammar.Rule (optional any separated commaSeparated)

/-! ## Tokens -/

private def word (text : String) : Terminal :=
  { name := text, spelling := some (Spelling.word text) }

/-- A word whose being expected matters to the layout. -/
private def watchedWord (text : String) : Terminal := { word text with watched := true }

private def kind (name : String) (spelling : Spelling) : Terminal :=
  { name, named := true, spelling := some spelling }

private def silent (name : String) (spelling : Spelling) : Terminal :=
  { kind name spelling with hidden := true }

/-- A token that is found by the layout alone. -/
private def layout (name : String) : Terminal := { name, named := true }

private def silentLayout (name : String) : Terminal := { layout name with hidden := true }

/-- All tokens. When a missing token is looked for, earlier ones are tried first. -/
def terminals : Array Terminal := #[
  kind "identifier" Spelling.name,
  word ";", word "import", word ".", word "from", word "__future__", word "(", watchedWord ")",
  word ",", word "as", word "*", word "print", word ">>", word "assert", word ":=", word "return",
  word "del", word "raise", word "pass", word "break", word "continue", word "if", word ":",
  word "elif", word "else", word "match", word "case", word "async", word "for", word "in",
  word "while", word "try", watchedWord "except", word "except*", word "finally", word "with",
  word "def", word "->", word "**", word "global", word "nonlocal", word "exec", word "type",
  word "=", word "class", word "[", watchedWord "]", word "@", word "-", word "_", word "|",
  word "\x7b", watchedWord "\x7d", word "+", word "not", word "and", word "or", word "/", word "%",
  word "//", word "&", word "^", word "<<", word "~", word "is", word "<", word "<=", word "==",
  word "!=", word ">=", word ">", word "<>", word "lambda", word "+=", word "-=", word "*=",
  word "/=", word "@=", word "//=", word "%=", word "**=", word ">>=", word "<<=", word "&=",
  word "^=", word "|=", word "yield",
  kind "ellipsis" (Spelling.word "..."), kind "escape_sequence" Spelling.escape,
  silent "_not_escape_sequence" Spelling.loneBackslash, silent "_format_text" Spelling.formatText,
  kind "type_conversion" Spelling.conversion, kind "integer" Spelling.integer,
  kind "float" Spelling.float, word "await", kind "true" (Spelling.word "True"),
  kind "false" (Spelling.word "False"), kind "none" (Spelling.word "None"),
  { kind "comment" Spelling.comment with extra := true, watched := true },
  { kind "line_continuation" Spelling.continuation with extra := true },
  silentLayout "_newline", silentLayout "_indent", silentLayout "_dedent",
  layout "string_start", silentLayout "_string_content", layout "escape_interpolation",
  layout "string_end"]

/-! ## Rules -/

private def t (text : String) : Rule := .token text
private def r (name : String) : Rule := .rule name
private def f (name : String) (content : Rule) : Rule := .field name content
private def seq (parts : List Rule) : Rule := .seq parts
private def choice (parts : List Rule) : Rule := .choice parts
private def rank (level : Int) (content : Rule) : Rule := .rank level none content
private def leftRank (level : Int) (content : Rule) : Rule := .rank level (some .left) content
private def rightRank (level : Int) (content : Rule) : Rule := .rank level (some .right) content
private def shown (name : String) (content : Rule) : Rule := .named ⟨name, true⟩ content
private def shownWord (name : String) (content : Rule) : Rule := .named ⟨name, false⟩ content

/-- Levels of precedence, from the loosest binding to the tightest. -/
private def level : String → Int
  | "lambda" => -2
  | "typed_parameter" | "conditional" => -1
  | "parenthesized" => 1
  | "or" => 10
  | "and" => 11
  | "not" => 12
  | "compare" => 13
  | "bitwise_or" => 14
  | "bitwise_and" => 15
  | "xor" => 16
  | "shift" => 17
  | "plus" => 18
  | "times" => 19
  | "unary" => 20
  | "power" => 21
  | "call" => 22
  | _ => 0

private def simpleStatements : List (String × Rule) := [
  ("module", any (r "_statement")),
  ("_statement", choice [r "_simple_statements", r "_compound_statement"]),
  ("_simple_statements",
    seq [separated ";" (r "_simple_statement"), optional (t ";"), t "_newline"]),
  ("_simple_statement", choice [
    r "future_import_statement", r "import_statement", r "import_from_statement",
    r "print_statement", r "assert_statement", r "expression_statement", r "return_statement",
    r "delete_statement", r "raise_statement", r "pass_statement", r "break_statement",
    r "continue_statement", r "global_statement", r "nonlocal_statement", r "exec_statement",
    r "type_alias_statement"]),
  ("import_statement", seq [t "import", r "_import_list"]),
  ("import_prefix", .many (t ".")),
  ("relative_import", seq [r "import_prefix", optional (r "dotted_name")]),
  ("future_import_statement", seq [t "from", t "__future__", t "import",
    choice [r "_import_list", seq [t "(", r "_import_list", t ")"]]]),
  ("import_from_statement", seq [t "from",
    f "module_name" (choice [r "relative_import", r "dotted_name"]), t "import",
    choice [r "wildcard_import", r "_import_list", seq [t "(", r "_import_list", t ")"]]]),
  ("_import_list", seq [
    commaSeparated (f "name" (choice [r "dotted_name", r "aliased_import"])), optional (t ",")]),
  ("aliased_import", seq [f "name" (r "dotted_name"), t "as", f "alias" (t "identifier")]),
  ("wildcard_import", t "*"),
  ("print_statement", choice [
    rank 1 (seq [t "print", r "chevron", any (seq [t ",", f "argument" (r "expression")]),
      optional (t ",")]),
    rank (-3) (.prefer (-1) (seq [t "print", commaSeparated (f "argument" (r "expression")),
      optional (t ",")]))]),
  ("chevron", seq [t ">>", r "expression"]),
  ("assert_statement", seq [t "assert", commaSeparated (r "expression")]),
  ("expression_statement", choice [
    r "expression",
    seq [commaSeparated (r "expression"), optional (t ",")],
    r "assignment", r "augmented_assignment", r "yield"]),
  ("named_expression", seq [
    f "name" (r "_named_expression_lhs"), t ":=", f "value" (r "expression")]),
  ("_named_expression_lhs", choice [t "identifier", r "keyword_identifier"]),
  ("return_statement", seq [t "return", optional (r "_expressions")]),
  ("delete_statement", seq [t "del", r "_expressions"]),
  ("_expressions", choice [r "expression", r "expression_list"]),
  ("raise_statement", seq [t "raise", optional (r "_expressions"),
    optional (seq [t "from", f "cause" (r "expression")])]),
  ("pass_statement", leftRank 0 (t "pass")),
  ("break_statement", leftRank 0 (t "break")),
  ("continue_statement", leftRank 0 (t "continue"))]

private def compoundStatements : List (String × Rule) := [
  ("_compound_statement", choice [
    r "if_statement", r "for_statement", r "while_statement", r "try_statement",
    r "with_statement", r "function_definition", r "class_definition", r "decorated_definition",
    r "match_statement"]),
  ("if_statement", seq [t "if", f "condition" (r "expression"), t ":",
    f "consequence" (r "_suite"), any (f "alternative" (r "elif_clause")),
    optional (f "alternative" (r "else_clause"))]),
  ("elif_clause", seq [t "elif", f "condition" (r "expression"), t ":",
    f "consequence" (r "_suite")]),
  ("else_clause", seq [t "else", t ":", f "body" (r "_suite")]),
  ("match_statement", seq [t "match", commaSeparated (f "subject" (r "expression")),
    optional (t ","), t ":", f "body" (shown "block" (r "_match_block"))]),
  ("_match_block", choice [
    seq [t "_indent", any (f "alternative" (r "case_clause")), t "_dedent"],
    t "_newline"]),
  ("case_clause", seq [t "case", commaSeparated (r "case_pattern"), optional (t ","),
    optional (f "guard" (r "if_clause")), t ":", f "consequence" (r "_suite")]),
  ("for_statement", seq [optional (t "async"), t "for", f "left" (r "_left_hand_side"), t "in",
    f "right" (r "_expressions"), t ":", f "body" (r "_suite"),
    f "alternative" (optional (r "else_clause"))]),
  ("while_statement", seq [t "while", f "condition" (r "expression"), t ":",
    f "body" (r "_suite"), optional (f "alternative" (r "else_clause"))]),
  ("try_statement", seq [t "try", t ":", f "body" (r "_suite"), choice [
    seq [.many (r "except_clause"), optional (r "else_clause"), optional (r "finally_clause")],
    seq [.many (r "except_group_clause"), optional (r "else_clause"),
      optional (r "finally_clause")],
    r "finally_clause"]]),
  ("except_clause", seq [t "except",
    optional (seq [f "value" (r "expression"),
      optional (seq [choice [t "as", t ","], f "alias" (r "expression")])]),
    t ":", r "_suite"]),
  ("except_group_clause", seq [t "except*",
    seq [r "expression", optional (seq [t "as", r "expression"])], t ":", r "_suite"]),
  ("finally_clause", seq [t "finally", t ":", r "_suite"]),
  ("with_statement", seq [optional (t "async"), t "with", r "with_clause", t ":",
    f "body" (r "_suite")]),
  ("with_clause", choice [
    seq [commaSeparated (r "with_item"), optional (t ",")],
    seq [t "(", commaSeparated (r "with_item"), optional (t ","), t ")"]]),
  ("with_item", .prefer 1 (f "value" (r "expression"))),
  ("function_definition", seq [optional (t "async"), t "def", f "name" (t "identifier"),
    f "type_parameters" (optional (r "type_parameter")), f "parameters" (r "parameters"),
    optional (seq [t "->", f "return_type" (r "type")]), t ":", f "body" (r "_suite")]),
  ("parameters", seq [t "(", optional (r "_parameters"), t ")"]),
  ("lambda_parameters", r "_parameters"),
  ("list_splat", seq [t "*", r "expression"]),
  ("dictionary_splat", seq [t "**", r "expression"]),
  ("global_statement", seq [t "global", commaSeparated (t "identifier")]),
  ("nonlocal_statement", seq [t "nonlocal", commaSeparated (t "identifier")]),
  ("exec_statement", seq [t "exec", f "code" (choice [r "string", t "identifier"]),
    optional (seq [t "in", commaSeparated (r "expression")])]),
  ("type_alias_statement", .prefer 1 (seq [t "type", f "left" (r "type"), t "=",
    f "right" (r "type")])),
  ("class_definition", seq [t "class", f "name" (t "identifier"),
    f "type_parameters" (optional (r "type_parameter")),
    f "superclasses" (optional (r "argument_list")), t ":", f "body" (r "_suite")]),
  ("type_parameter", seq [t "[", commaSeparated (r "type"), optional (t ","), t "]"]),
  ("parenthesized_list_splat", rank (level "parenthesized") (seq [t "(",
    choice [shown "parenthesized_expression" (r "parenthesized_list_splat"), r "list_splat"],
    t ")"])),
  ("argument_list", seq [t "(",
    optional (commaSeparated (choice [r "expression", r "list_splat", r "dictionary_splat",
      shown "parenthesized_expression" (r "parenthesized_list_splat"), r "keyword_argument"])),
    optional (t ","), t ")"]),
  ("decorated_definition", seq [.many (r "decorator"),
    f "definition" (choice [r "class_definition", r "function_definition"])]),
  ("decorator", seq [t "@", r "expression", t "_newline"]),
  ("_suite", choice [
    shown "block" (r "_simple_statements"),
    seq [t "_indent", r "block"],
    shown "block" (t "_newline")]),
  ("block", seq [any (r "_statement"), t "_dedent"]),
  ("expression_list", rightRank 0 (seq [r "expression", choice [
    t ",",
    seq [.many (seq [t ",", r "expression"]), optional (t ",")]]])),
  ("dotted_name", rank 1 (separated "." (t "identifier")))]

private def casePatterns : List (String × Rule) := [
  ("case_pattern", rank 1 (choice [
    shown "as_pattern" (r "_as_pattern"), r "keyword_pattern", r "_simple_pattern"])),
  ("_simple_pattern", rank 1 (choice [
    r "class_pattern", r "splat_pattern", r "union_pattern",
    shown "list_pattern" (r "_list_pattern"), shown "tuple_pattern" (r "_tuple_pattern"),
    r "dict_pattern", r "string", r "concatenated_string", t "true", t "false", t "none",
    seq [optional (t "-"), choice [t "integer", t "float"]],
    r "complex_pattern", r "dotted_name", t "_"])),
  ("_as_pattern", seq [r "case_pattern", t "as", t "identifier"]),
  ("union_pattern", rightRank 0 (seq [r "_simple_pattern",
    .many (leftRank 0 (seq [t "|", r "_simple_pattern"]))])),
  ("_list_pattern", seq [t "[",
    optional (seq [commaSeparated (r "case_pattern"), optional (t ",")]), t "]"]),
  ("_tuple_pattern", seq [t "(",
    optional (seq [commaSeparated (r "case_pattern"), optional (t ",")]), t ")"]),
  ("dict_pattern", seq [t "\x7b",
    optional (seq [commaSeparated (choice [r "_key_value_pattern", r "splat_pattern"]),
      optional (t ",")]),
    t "\x7d"]),
  ("_key_value_pattern", seq [f "key" (r "_simple_pattern"), t ":",
    f "value" (r "case_pattern")]),
  ("keyword_pattern", seq [t "identifier", t "=", r "_simple_pattern"]),
  ("splat_pattern", rank 1 (seq [choice [t "*", t "**"], choice [t "identifier", t "_"]])),
  ("class_pattern", seq [r "dotted_name", t "(",
    optional (seq [commaSeparated (r "case_pattern"), optional (t ",")]), t ")"]),
  ("complex_pattern", rank 1 (seq [optional (t "-"), choice [t "integer", t "float"],
    choice [t "+", t "-"], choice [t "integer", t "float"]]))]

private def patterns : List (String × Rule) := [
  ("_parameters", seq [commaSeparated (r "parameter"), optional (t ",")]),
  ("_patterns", seq [commaSeparated (r "pattern"), optional (t ",")]),
  ("parameter", choice [
    t "identifier", r "typed_parameter", r "default_parameter", r "typed_default_parameter",
    r "list_splat_pattern", r "tuple_pattern", r "keyword_separator", r "positional_separator",
    r "dictionary_splat_pattern"]),
  ("pattern", choice [
    t "identifier", r "keyword_identifier", r "subscript", r "attribute",
    r "list_splat_pattern", r "tuple_pattern", r "list_pattern"]),
  ("tuple_pattern", seq [t "(", optional (r "_patterns"), t ")"]),
  ("list_pattern", seq [t "[", optional (r "_patterns"), t "]"]),
  ("default_parameter", seq [f "name" (choice [t "identifier", r "tuple_pattern"]), t "=",
    f "value" (r "expression")]),
  ("typed_default_parameter", rank (level "typed_parameter") (seq [f "name" (t "identifier"),
    t ":", f "type" (r "type"), t "=", f "value" (r "expression")])),
  ("list_splat_pattern", seq [t "*",
    choice [t "identifier", r "keyword_identifier", r "subscript", r "attribute"]]),
  ("dictionary_splat_pattern", seq [t "**",
    choice [t "identifier", r "keyword_identifier", r "subscript", r "attribute"]]),
  ("as_pattern", leftRank 0 (seq [r "expression", t "as",
    f "alias" (shown "as_pattern_target" (r "expression"))]))]

private def binary (side : Associativity) (operator name : String) : Rule :=
  .rank (level name) (some side) (seq [f "left" (r "primary_expression"),
    f "operator" (t operator), f "right" (r "primary_expression")])

private def expressions : List (String × Rule) := [
  ("_expression_within_for_in_clause", choice [
    r "expression", shown "lambda" (r "lambda_within_for_in_clause")]),
  ("expression", choice [
    r "comparison_operator", r "not_operator", r "boolean_operator", r "lambda",
    r "primary_expression", r "conditional_expression", r "named_expression", r "as_pattern"]),
  ("primary_expression", choice [
    r "await", r "binary_operator", t "identifier", r "keyword_identifier", r "string",
    r "concatenated_string", t "integer", t "float", t "true", t "false", t "none",
    r "unary_operator", r "attribute", r "subscript", r "call", r "list",
    r "list_comprehension", r "dictionary", r "dictionary_comprehension", r "set",
    r "set_comprehension", r "tuple", r "parenthesized_expression", r "generator_expression",
    t "ellipsis", shown "list_splat" (r "list_splat_pattern")]),
  ("not_operator", rank (level "not") (seq [t "not", f "argument" (r "expression")])),
  ("boolean_operator", choice [
    leftRank (level "and") (seq [f "left" (r "expression"), f "operator" (t "and"),
      f "right" (r "expression")]),
    leftRank (level "or") (seq [f "left" (r "expression"), f "operator" (t "or"),
      f "right" (r "expression")])]),
  ("binary_operator", choice [
    binary .left "+" "plus", binary .left "-" "plus", binary .left "*" "times",
    binary .left "@" "times", binary .left "/" "times", binary .left "%" "times",
    binary .left "//" "times", binary .right "**" "power", binary .left "|" "bitwise_or",
    binary .left "&" "bitwise_and", binary .left "^" "xor", binary .left "<<" "shift",
    binary .left ">>" "shift"]),
  ("unary_operator", rank (level "unary") (seq [
    f "operator" (choice [t "+", t "-", t "~"]), f "argument" (r "primary_expression")])),
  ("_not_in", seq [t "not", t "in"]),
  ("_is_not", seq [t "is", t "not"]),
  ("comparison_operator", leftRank (level "compare") (seq [r "primary_expression",
    .many (seq [f "operators" (choice [t "<", t "<=", t "==", t "!=", t ">=", t ">", t "<>",
        t "in", shownWord "not in" (r "_not_in"), t "is", shownWord "is not" (r "_is_not")]),
      r "primary_expression"])])),
  ("lambda", rank (level "lambda") (seq [t "lambda",
    f "parameters" (optional (r "lambda_parameters")), t ":", f "body" (r "expression")])),
  ("lambda_within_for_in_clause", seq [t "lambda",
    f "parameters" (optional (r "lambda_parameters")), t ":",
    f "body" (r "_expression_within_for_in_clause")]),
  ("assignment", seq [f "left" (r "_left_hand_side"), choice [
    seq [t "=", f "right" (r "_right_hand_side")],
    seq [t ":", f "type" (r "type")],
    seq [t ":", f "type" (r "type"), t "=", f "right" (r "_right_hand_side")]]]),
  ("augmented_assignment", seq [f "left" (r "_left_hand_side"),
    f "operator" (choice [t "+=", t "-=", t "*=", t "/=", t "@=", t "//=", t "%=", t "**=",
      t ">>=", t "<<=", t "&=", t "^=", t "|="]),
    f "right" (r "_right_hand_side")]),
  ("_left_hand_side", choice [r "pattern", r "pattern_list"]),
  ("pattern_list", seq [r "pattern", choice [
    t ",",
    seq [.many (seq [t ",", r "pattern"]), optional (t ",")]]]),
  ("_right_hand_side", choice [
    r "expression", r "expression_list", r "assignment", r "augmented_assignment",
    r "pattern_list", r "yield"]),
  ("yield", rightRank 0 (seq [t "yield", choice [
    seq [t "from", r "expression"],
    optional (r "_expressions")]])),
  ("attribute", rank (level "call") (seq [f "object" (r "primary_expression"), t ".",
    f "attribute" (t "identifier")])),
  ("subscript", rank (level "call") (seq [f "value" (r "primary_expression"), t "[",
    commaSeparated (f "subscript" (choice [r "expression", r "slice"])), optional (t ","),
    t "]"])),
  ("slice", seq [optional (r "expression"), t ":", optional (r "expression"),
    optional (seq [t ":", optional (r "expression")])]),
  ("call", rank (level "call") (seq [f "function" (r "primary_expression"),
    f "arguments" (choice [r "generator_expression", r "argument_list"])])),
  ("typed_parameter", rank (level "typed_parameter") (seq [
    choice [t "identifier", r "list_splat_pattern", r "dictionary_splat_pattern"], t ":",
    f "type" (r "type")])),
  ("type", choice [
    rank 1 (r "expression"), r "splat_type", r "generic_type", r "union_type",
    r "constrained_type", r "member_type"]),
  ("splat_type", rank 1 (seq [choice [t "*", t "**"], t "identifier"])),
  ("generic_type", rank 1 (seq [
    choice [t "identifier", shown "identifier" (t "type")], r "type_parameter"])),
  ("union_type", leftRank 0 (seq [r "type", t "|", r "type"])),
  ("constrained_type", rightRank 0 (seq [r "type", t ":", r "type"])),
  ("member_type", seq [r "type", t ".", t "identifier"]),
  ("keyword_argument", seq [f "name" (choice [t "identifier", r "keyword_identifier"]), t "=",
    f "value" (r "expression")])]

private def displays : List (String × Rule) := [
  ("list", seq [t "[", optional (r "_collection_elements"), t "]"]),
  ("set", seq [t "\x7b", r "_collection_elements", t "\x7d"]),
  ("tuple", seq [t "(", optional (r "_collection_elements"), t ")"]),
  ("dictionary", seq [t "\x7b",
    optional (commaSeparated (choice [r "pair", r "dictionary_splat"])), optional (t ","),
    t "\x7d"]),
  ("pair", seq [f "key" (r "expression"), t ":", f "value" (r "expression")]),
  ("list_comprehension", seq [t "[", f "body" (r "expression"), r "_comprehension_clauses",
    t "]"]),
  ("dictionary_comprehension", seq [t "\x7b", f "body" (r "pair"), r "_comprehension_clauses",
    t "\x7d"]),
  ("set_comprehension", seq [t "\x7b", f "body" (r "expression"), r "_comprehension_clauses",
    t "\x7d"]),
  ("generator_expression", seq [t "(", f "body" (r "expression"), r "_comprehension_clauses",
    t ")"]),
  ("_comprehension_clauses", seq [r "for_in_clause",
    any (choice [r "for_in_clause", r "if_clause"])]),
  ("parenthesized_expression", rank (level "parenthesized") (seq [t "(",
    choice [r "expression", r "yield"], t ")"])),
  ("_collection_elements", seq [
    commaSeparated (choice [r "expression", r "yield", r "list_splat",
      r "parenthesized_list_splat"]),
    optional (t ",")]),
  ("for_in_clause", leftRank 0 (seq [optional (t "async"), t "for",
    f "left" (r "_left_hand_side"), t "in",
    f "right" (commaSeparated (r "_expression_within_for_in_clause")), optional (t ",")])),
  ("if_clause", seq [t "if", r "expression"]),
  ("conditional_expression", rightRank (level "conditional") (seq [r "expression", t "if",
    r "expression", t "else", r "expression"])),
  ("concatenated_string", seq [r "string", .many (r "string")]),
  ("string", seq [t "string_start", any (choice [r "interpolation", r "string_content"]),
    t "string_end"]),
  ("string_content", rightRank 0 (.many (choice [t "escape_interpolation", t "escape_sequence",
    t "_not_escape_sequence", t "_string_content"]))),
  ("interpolation", seq [t "\x7b", f "expression" (r "_f_expression"), optional (t "="),
    optional (f "type_conversion" (t "type_conversion")),
    optional (f "format_specifier" (r "format_specifier")), t "\x7d"]),
  ("_f_expression", choice [r "expression", r "expression_list", r "pattern_list", r "yield"]),
  ("format_specifier", seq [t ":",
    any (choice [t "_format_text", shown "format_expression" (r "interpolation")])]),
  ("keyword_identifier", choice [
    rank (-3) (shown "identifier" (choice [t "print", t "exec", t "async", t "await"])),
    shown "identifier" (choice [t "type", t "match"])]),
  ("await", rank (level "unary") (seq [t "await", r "primary_expression"])),
  ("positional_separator", t "/"),
  ("keyword_separator", t "*")]

/-- Python as a grammar value. -/
def definition : Definition where
  rules := simpleStatements ++ compoundStatements ++ casePatterns ++ patterns ++ expressions ++
    displays
  inlined := ["_simple_statement", "_compound_statement", "_suite", "_expressions",
    "_left_hand_side", "keyword_identifier"]
  supertypes := ["_simple_statement", "_compound_statement", "expression", "primary_expression",
    "pattern", "parameter"]

/-- The grammar with its symbols numbered. -/
def indexed : Indexed := definition.index terminals "identifier"

/-- The automaton of the grammar. -/
def automaton : Automaton := .ofGrammar indexed Letter.count Letter.blanks

/-- The number of a token. -/
def tokenNumber (name : String) : Nat := (terminals.findIdx? (·.name == name)).getD terminals.size

end RefactorAudit.Python
