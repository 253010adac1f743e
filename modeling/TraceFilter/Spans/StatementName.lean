/-
Module: TraceFilter.Spans.StatementName
Purpose: Names as they stand in statements, quoted where a plain name would be read otherwise.
Main exports: needsQuotes, statementName
-/
import TraceFilter.Text.LowerCase

namespace TraceFilter

/-- Words that cannot stand as names without quotes. -/
def reservedWords : List String := [
  "all", "analyse", "analyze", "and", "any", "array", "as", "asc", "asymmetric",
  "authorization", "between", "binary", "both", "case", "cast", "check", "collate", "column",
  "constraint", "create", "cross", "current_date", "current_role", "current_time",
  "current_timestamp", "current_user", "default", "deferrable", "desc", "distinct", "do", "else",
  "end", "except", "false", "for", "foreign", "freeze", "from", "full", "grant", "group",
  "having", "ilike", "in", "initially", "inner", "intersect", "into", "is", "isnull", "join",
  "leading", "left", "like", "limit", "localtime", "localtimestamp", "natural", "new", "not",
  "notnull", "null", "off", "offset", "old", "on", "only", "or", "order", "outer", "overlaps",
  "placing", "primary", "references", "right", "select", "session_user", "set", "similar",
  "some", "symmetric", "table", "then", "to", "trailing", "true", "union", "unique", "user",
  "using", "verbose", "when", "where"]

/-- Whether a character can stand in a name without quotes. -/
def isPlainNameChar (c : Char) : Bool :=
  c.isAlphanum || c == '_' || c == '$' || c == 'ı' || c == 'ſ'

/-- A name without the line break that it may end on. -/
def withoutLineBreak (name : List Char) : List Char :=
  if name.getLast? = some '\n' then name.dropLast else name

/-- Whether a name consists of characters of plain names, one or more; a line break at its very end
does not count. -/
def isPlainName (name : List Char) : Bool :=
  let characters := withoutLineBreak name
  !characters.isEmpty && characters.all isPlainNameChar

/-- Whether a name needs quotes: it is a reserved word, starts with a digit or a dollar sign, is no
plain name or holds a capital. -/
def needsQuotes (name : String) : Bool :=
  let start := name.toList.headD '0'
  reservedWords.contains (Text.lower name) || start.isDigit || start == '$'
    || !isPlainName name.toList || Text.lower name != name

/-- A name in a statement; a quote inside quotes is written twice. -/
def statementName (name : String) : String :=
  if needsQuotes name then
    String.ofList ('"' :: name.toList.flatMap (fun c => if c = '"' then [c, c] else [c]) ++ ['"'])
  else name

end TraceFilter
