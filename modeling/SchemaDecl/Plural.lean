import SchemaDecl.Plural.Table
import SchemaDecl.Text.Case

/-!
# Plurals of English nouns

`ofWord` gives the plural of a noun.  The rules are tried in order and the first that applies
decides: nouns that have no plural of their own, pronouns, irregular nouns, Latin and Greek endings,
endings in a hiss, and the general rules for `f`, `y` and `o`.  The plural takes on the case of the
noun.
-/

namespace SchemaDecl.Plural

open Text

/-- A noun with its lower-case form, in which endings are sought. -/
structure Noun where
  letters : List Char
  lower : List Char

namespace Noun

/-- The noun with the given letters. -/
def ofLetters (letters : List Char) : Noun :=
  ⟨letters, lowered letters⟩

/-- Whether the lower-case form ends in `ending`. -/
def ends (noun : Noun) (ending : String) : Bool :=
  ending.toList.isSuffixOf noun.lower

/-- Whether the lower-case form has one of the endings. -/
def endsInOneOf (noun : Noun) (endings : List String) : Bool :=
  endings.any noun.ends

/-- Whether the noun as it is written has one of the endings. -/
def endsAsWrittenInOneOf (noun : Noun) (endings : List String) : Bool :=
  endings.any fun ending => ending.toList.isSuffixOf noun.letters

/-- Whether the lower-case form is one of the words. -/
def isOneOf (noun : Noun) (words : List String) : Bool :=
  words.any fun word => word.toList == noun.lower

/-- Whether the noun as it is written is one of the words. -/
def isAsWrittenOneOf (noun : Noun) (words : List String) : Bool :=
  words.any fun word => word.toList == noun.letters

/-- The letter `place` places before the end of the lower-case form, the last one being at 0. -/
def fromEnd (noun : Noun) (place : Nat) : Option Char :=
  noun.lower.reverse[place]?

/-- Whether the noun starts with a character that is its own upper-case form. -/
def startsInCapital (noun : Noun) : Bool :=
  match noun.letters with
  | [] => true
  | char :: _ => upper char == [char]

/-- The noun with its last `count` letters replaced. -/
def replaceLast (noun : Noun) (count : Nat) (ending : String) : List Char :=
  noun.letters.take (noun.letters.length - count) ++ ending.toList

/-- The noun with an ending added. -/
def add (noun : Noun) (ending : String) : List Char :=
  noun.letters ++ ending.toList

end Noun

/-- A rule gives the plural of the nouns it applies to. -/
abbrev Rule := Noun → Option (List Char)

/-- The rule that a noun which satisfies `applies` has the plural `form`. -/
def rule (applies : Noun → Bool) (form : Noun → List Char) : Rule := fun noun =>
  if applies noun then some (form noun) else none

/-- The first rule that applies decides. -/
def firstOf (rules : List Rule) : Rule := fun noun =>
  rules.findSome? fun rule => rule noun

/-- Find the plural of a word in a table. -/
def inTable (table : List (String × String)) (word : List Char) : Option (List Char) :=
  (table.find? fun entry => entry.1.toList == word).map fun entry => entry.2.toList

/-- Nouns whose plural is the noun itself. -/
def unchanged : Rule :=
  rule
    (fun noun => noun.isOneOf uninflected || noun.isAsWrittenOneOf uninflectedProper ||
      noun.endsInOneOf uninflectedEndings)
    Noun.letters

/-- Pronouns and irregular nouns. -/
def irregularForm : Rule :=
  firstOf
    [fun noun => inTable subjectPronouns noun.lower,
     fun noun => inTable objectPronouns noun.lower,
     fun noun => inTable irregularProper noun.letters,
     fun noun => inTable irregular noun.lower]

/-- Compounds of nouns that change a vowel, and the nouns that only look like one. -/
def compounds : Rule :=
  firstOf
    [rule (·.ends "quy") (·.replaceLast 1 "ies"),
     rule (·.ends "person") (·.replaceLast 4 "ople"),
     rule
       (fun noun => noun.ends "man" &&
         (noun.endsInOneOf manEndings || noun.endsAsWrittenInOneOf manProperEndings))
       (·.add "s"),
     rule (·.ends "man") (·.replaceLast 3 "men"),
     rule (·.ends "mouse") (·.replaceLast 5 "mice"),
     rule (fun noun => noun.ends "louse" && noun.isOneOf lice) (·.replaceLast 5 "lice"),
     rule (·.ends "louse") (·.add "s"),
     rule (·.ends "goose") (·.replaceLast 5 "geese"),
     rule (·.ends "tooth") (·.replaceLast 5 "teeth"),
     rule (·.ends "foot") (·.replaceLast 4 "feet"),
     rule (·.ends "taco") (·.replaceLast 5 "tacos"),
     rule (·.isOneOf ["die"]) (fun _ => "dice".toList)]

/-- Nouns with a Latin or Greek plural, and the English nouns with the same endings. -/
def classical : Rule :=
  firstOf
    [rule (·.ends "ceps") Noun.letters,
     rule (·.ends "zoon") (·.replaceLast 2 "a"),
     rule (·.endsInOneOf ["cis", "sis", "xis"]) (·.replaceLast 2 "es"),
     rule (·.endsInOneOf hardChEndings) (·.add "s"),
     rule (·.endsInOneOf exToIces) (·.replaceLast 2 "ices"),
     rule (·.endsInOneOf ixToIces) (·.replaceLast 2 "ices"),
     rule (·.endsInOneOf umToA) (·.replaceLast 2 "a"),
     rule (·.endsInOneOf usToI) (·.replaceLast 2 "i"),
     rule (·.endsInOneOf onToA) (·.replaceLast 2 "a"),
     rule (·.endsInOneOf aToAe) (·.add "e")]

/-- Nouns that end in a hiss and add a syllable. -/
def sibilants : Rule :=
  firstOf
    [rule (·.isOneOf singularInS) (·.add "es"),
     rule (·.endsInOneOf singularEndingsInS) (·.add "es"),
     rule (fun noun => noun.ends "es" && noun.startsInCapital) (·.add "es"),
     rule (fun noun => noun.ends "z" && noun.endsInOneOf zToZes) (·.add "es"),
     rule (fun noun => noun.ends "z" && noun.fromEnd 1 != some 'z') (·.add "zes"),
     rule (fun noun => noun.ends "ze" && noun.endsInOneOf zeToZes) (·.add "s"),
     rule (·.endsInOneOf ["ch", "sh", "zz", "ss", "x"]) (·.add "es")]

/-- Nouns in `f` whose last consonant is voiced in the plural. -/
def voiced : Rule :=
  firstOf
    [rule (·.endsInOneOf ["elf", "alf", "olf"]) (·.replaceLast 1 "ves"),
     rule (fun noun => noun.ends "eaf" && noun.fromEnd 3 != some 'd') (·.replaceLast 1 "ves"),
     rule (·.endsInOneOf ["nife", "life", "wife"]) (·.replaceLast 2 "ves"),
     rule (·.ends "arf") (·.replaceLast 1 "ves")]

/-- Whether the letter before the last is a vowel, or there is none. -/
def afterVowel (noun : Noun) : Bool :=
  match noun.fromEnd 1 with
  | none => true
  | some char => "aeiou".toList.contains char

/-- Nouns in `y` and in `o`. -/
def vowels : Rule :=
  firstOf
    [rule (fun noun => noun.ends "y" && (afterVowel noun || noun.startsInCapital)) (·.add "s"),
     rule (·.ends "y") (·.replaceLast 1 "ies"),
     rule (·.isOneOf oToOs) (·.add "s"),
     rule (·.endsInOneOf oToOsEndings) (·.add "s"),
     rule (·.endsInOneOf ["ao", "eo", "io", "oo", "uo"]) (·.add "s"),
     rule (·.ends "o") (·.add "es")]

/-- The plural of a noun before its case is restored. -/
def form (noun : Noun) : List Char :=
  (firstOf [unchanged, irregularForm, compounds, classical, sibilants, voiced, vowels] noun).getD
    (noun.add "s")

/-- Give the plural the case of the noun: all capitals, a capital first letter, or as it comes. -/
def restoreCase (noun plural : List Char) : List Char :=
  if noun = ['I'] then plural
  else if uppered noun = noun then uppered plural
  else if capitalized noun = noun then capitalized plural
  else plural

/-- The letters of the plural of a noun. -/
def letters (noun : List Char) : List Char :=
  restoreCase noun (form (.ofLetters noun))

/-- The plural of a noun.  The empty text is no noun. -/
def ofWord? (word : String) : Option String :=
  if word = "" then none else some (String.ofList (letters word.toList))

theorem ofWord?_eq_none_iff (word : String) : ofWord? word = none ↔ word = "" := by
  by_cases empty : word = "" <;> simp [ofWord?, empty]

end SchemaDecl.Plural
