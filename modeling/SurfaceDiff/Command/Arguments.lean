import SurfaceDiff.Command.Request
import SurfaceDiff.Files.Path

/-!
Contract: a parser for the arguments of the command.

Owns: the spelling of the options, the two positional arguments, and which argument lists are misused.

Options can stand anywhere and be repeated; two dashes end them. Short options can share a dash. An
argument that is a single dash is positional.
-/

namespace SurfaceDiff.Command.Arguments

inductive Switch where
  | noChanged
  | json
  | failOnDiff
  | verbose
  | help
deriving DecidableEq, Repr

def Switch.ofLong? : String → Option Switch
  | "--no-changed" => some noChanged
  | "--json" => some json
  | "--fail-on-diff" => some failOnDiff
  | "--verbose" => some verbose
  | "--help" => some help
  | _ => none

def Switch.ofShort? : Char → Option Switch
  | 'v' => some verbose
  | _ => none

/-- The switches of one argument; `none` if one of them is unknown. -/
def switches? (argument : String) : Option (List Switch) :=
  match Switch.ofLong? argument with
  | some switch => some [switch]
  | none =>
    match argument.toList with
    | '-' :: '-' :: _ => none
    | _ :: letters => letters.mapM Switch.ofShort?
    | [] => none

/-- An argument of more than a dash that starts with one. -/
def IsOption (argument : String) : Prop :=
  argument.toList.head? = some '-' ∧ argument ≠ "-"

instance (argument : String) : Decidable (IsOption argument) := by
  unfold IsOption
  infer_instance

/-- The switches and the positional arguments; `none` if a switch is unknown. -/
def separate : List String → Option (List Switch × List String)
  | [] => some ([], [])
  | argument :: rest =>
    if argument = "--" then
      some ([], rest)
    else if IsOption argument then do
      let switches ← switches? argument
      let (others, positionals) ← separate rest
      return (switches ++ others, positionals)
    else do
      let (switches, positionals) ← separate rest
      return (switches, argument :: positionals)

def usage : String :=
  "Usage: javaapidiff [--no-changed] [--json] [--fail-on-diff] [-v | --verbose] BASE TARGET\n"

def helped : Request := .ended 0 usage ""

def misused : Request := .ended 2 "" usage

/-- Help is given even if the positional arguments are wrong, but not if a switch is. A path must not
hold a NUL. -/
def parse : Parser := fun arguments =>
  match separate arguments with
  | none => misused
  | some (switches, positionals) =>
    if .help ∈ switches then
      helped
    else
      match positionals with
      | [base, target] =>
        if Files.Path.HasNul base ∨ Files.Path.HasNul target then
          misused
        else
          .diff {
            base, target
            noChanged := .noChanged ∈ switches
            json := .json ∈ switches
            failOnDiff := .failOnDiff ∈ switches
            verbose := .verbose ∈ switches }
      | _ => misused

end SurfaceDiff.Command.Arguments
