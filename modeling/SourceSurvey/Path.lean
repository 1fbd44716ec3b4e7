namespace SourceSurvey

namespace Path

def isAbsolute (p : String) : Bool := p.toList.head? = some '/'

def parts (p : String) : List String :=
  ((p.toList.splitOn '/').map String.ofList).filter (· ≠ "")

/-- One more part after those already walked, which are kept last first. Above a root there is
nothing. -/
def walk (rooted : Bool) : List String → String → List String
  | above, "." => above
  | [], ".." => if rooted then [] else [".."]
  | top :: above, ".." => if top = ".." then ".." :: top :: above else above
  | above, s => s :: above

def build (rooted : Bool) (ps : List String) : String :=
  if rooted then "/" ++ "/".intercalate ps else if ps.isEmpty then "." else "/".intercalate ps

def clean (p : String) : String :=
  build (isAbsolute p) ((parts p).foldl (walk (isAbsolute p)) []).reverse

def join (ps : List String) : String :=
  match ps.filter (· ≠ "") with
  | [] => ""
  | qs => clean ("/".intercalate qs)

def lastPart (p : String) : List Char := (p.toList.reverse.takeWhile (· ≠ '/')).reverse

def extension (p : String) : String :=
  let last := (lastPart p).reverse
  if last.contains '.' then String.ofList ('.' :: (last.takeWhile (· ≠ '.')).reverse) else ""

def base (p : String) : String :=
  if p = "" then "."
  else
    match (parts p).getLast? with
    | some s => s
    | none => "/"

def parent (p : String) : String :=
  clean (String.ofList (p.toList.take (p.length - (lastPart p).length)))

/-- What leads from one path to another, if both are absolute or both relative and no parent above the
first is unknown. -/
def relative? (start goal : String) : Option String :=
  let f := clean start
  let t := clean goal
  if f = t then some "."
  else
    let fs := if f = "." then [] else parts f
    if isAbsolute f != isAbsolute t then none
    else
      let ts := if t = "." then [] else parts t
      let rec strip : List String → List String → List String × List String
        | a :: as, b :: bs => if a = b then strip as bs else (a :: as, b :: bs)
        | as, bs => (as, bs)
      let (up, down) := strip fs ts
      if up.contains ".." then none else some (build false (up.map (fun _ => "..") ++ down))

end Path

end SourceSurvey
