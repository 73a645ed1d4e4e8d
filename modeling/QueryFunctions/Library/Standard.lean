import QueryFunctions.Environment
import QueryFunctions.Library.Arithmetic
import QueryFunctions.Library.Patterns
import QueryFunctions.Library.Strings

/-! The standard functions and the environment that holds them. -/

namespace QueryFunctions

open Library

/-- The standard functions. The product goes under two names. -/
def standardFunctions : List FunctionSpec := [
  ⟨"concat", .variadic 2 .any, concat⟩,
  ⟨"upper_case", .exact [.string], upperCase⟩,
  ⟨"lower_case", .exact [.string], lowerCase⟩,
  ⟨"normalize_space", .exact [.string], normalizeSpaceBody⟩,
  ⟨"translate", .exact [.string, .string, .string], translateBody⟩,
  ⟨"substring_before", .exact [.any, .any], substringBeforeBody⟩,
  ⟨"substring_after", .exact [.any, .any], substringAfterBody⟩,
  ⟨"matches", .ranged 2 3 .string, matchesBody⟩,
  ⟨"tokenize", .ranged 1 3 .string, tokenize⟩,
  ⟨"replace", .ranged 3 4 .string, replace⟩,
  ⟨"add", .exact [.number, .number], add⟩,
  ⟨"subtract", .exact [.number, .number], subtract⟩,
  ⟨"multiply", .exact [.number, .number], multiply⟩,
  ⟨"multiple", .exact [.number, .number], multiply⟩,
  ⟨"divide", .exact [.number, .number], divide⟩]

/-- The environment with the standard functions and the default limits. -/
def Environment.standard : Environment := .ofSpecs standardFunctions

end QueryFunctions
