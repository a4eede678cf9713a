import EnvRegistry.Shell.Builtin
import EnvRegistry.Shell.Condition
import EnvRegistry.Shell.Utility.Output

/-! # Utilities that tell about processes and the system, and programs of words of the shell -/

namespace EnvRegistry.Shell.Utility

open ShellM

/-! ## Conditions -/

/-- Zero if a condition holds, one if not, two if it makes no sense. -/
def condition (bracket : Bool) : Utility := fun args => do
  let args ← if !bracket then pure args
    else if args.getLast? = some "]" then pure args.dropLast
    else refuse Condition.Fault.noBracket.message
  match Condition.holds (← get) args with
  | .ok b => return if b then 0 else 1
  | .error f => refuse f.message

/-! ## Programs that are words of the shell as well -/

/-- The output of arguments, in which escapes mean something only if that is asked for. -/
def echoProgram : Utility := fun args => do
  let isFlags (a : String) : Bool :=
    1 < a.length && a.startsWith "-" && a.toList.tail.all ['n', 'e', 'E'].contains
  let flags := (args.takeWhile isFlags).flatMap fun a => a.toList.tail
  let rest := args.dropWhile isFlags
  let text := String.intercalate " " rest
  let escapes := (flags.reverse.find? fun c => c = 'e' || c = 'E') = some 'e'
  let (text, ended) := if escapes then Format.interpreted text else (text, false)
  say (if flags.contains 'n' || ended then text else text ++ "\n")
  return 0

/-- The output of a format, with the faults as a program says them. -/
def printfProgram : Utility := fun args => do
  match (if args.head? = some "--" then args.tail else args) with
  | [] => failUsage "printf" "missing operand" 1
  | format :: rest =>
    let p := Format.write format rest
    say p.text
    p.faults.reverse.forM fun f => complain ("printf: " ++ f)
    return if p.faults.isEmpty then 0 else 1

/-- The path without links of the directory one is in. -/
def pwdProgram : Utility := fun args => do
  let s ← get
  say ((if args.contains "-L" then s.path
    else "/" ++ String.intercalate "/" (s.cwd.map Raw.ofText)) ++ "\n")
  return 0

/-! ## Variables that programs see -/

/-- How many places the table of variables has. -/
def variablePlaces : Nat := 39

/-- The variables that programs see with their values, by the places at which they are kept. -/
def seenVariables : ShellM (List (String × String)) := do
  let vs := (← get).bindings.reverse.filterMap fun (name, v) =>
    if v.exported then v.value.map fun value => (name, value) else none
  let sorted := vs.mergeSort fun a b => a.1 ≤ b.1
  return Builtin.inPlaces variablePlaces sorted

/-- The variables that programs see. -/
def printenv : Utility := fun args => do
  let seen ← seenVariables
  match args.filter fun a => a ≠ "-0" && a ≠ "--null" with
  | [] =>
    say (String.join (seen.map fun v => v.1 ++ "=" ++ v.2 ++ "\n"))
    return 0
  | names => forEach (fun name => do
    match seen.lookup name with
    | some v =>
      say (v ++ "\n")
      return 0
    | none => return 1) names

/-! ## Time -/

/-- The number of seconds that a text says, with the letter of a unit. -/
def duration? (s : String) : Option Rat :=
  let cs := s.toList
  let (digits, unit) : List Char × Rat := match cs.getLast? with
    | some 's' => (cs.dropLast, 1)
    | some 'm' => (cs.dropLast, 60)
    | some 'h' => (cs.dropLast, 3600)
    | some 'd' => (cs.dropLast, 86400)
    | _ => (cs, 1)
  if digits = "infinity".toList || digits = "inf".toList then some (unit * 1000000000)
  else (decimal? (String.ofList digits)).bind fun d =>
    if d.value < 0 then none else some (d.value * unit)

/-- What is wrong with a time to wait for. -/
def sleepFault? (args : List String) : Option String :=
  if args.isEmpty then some "missing operand"
  else (args.find? fun a => (duration? a).isNone).map fun wrong =>
    "invalid time interval " ++ quoted wrong

/-! ## The system -/

/-- A part of what is known of the system. -/
def uname : Utility := fun args =>
  withOptions "uname" 1
    { plain := "amnrsvpio", long := [("all", 'a'), ("kernel-name", 's'), ("machine", 'm'),
      ("nodename", 'n'), ("kernel-release", 'r'), ("operating-system", 'o')] } args fun o => do
    let parts := [('s', "Linux"), ('n', "localhost"), ('r', "6.0.0"), ('v', "#1 SMP"),
      ('m', "x86_64"), ('o', "GNU/Linux")]
    let asked := parts.filter fun p => o.has 'a' || o.has p.1 || (o.taken.isEmpty && p.1 = 's')
    say (String.intercalate " " (asked.map (·.2)) ++ "\n")
    return 0

/-- Who is working. -/
def id : Utility := fun args =>
  withOptions "id" 1 { plain := "agGnruz" } args fun o => do
    let one := if o.has 'n' then "root" else "0"
    if o.has 'u' || o.has 'g' || o.has 'G' then say (one ++ "\n")
    else say "uid=0(root) gid=0(root) groups=0(root)\n"
    return 0

/-- The days of the months of a year. -/
def monthLengths (leap : Bool) : List Nat :=
  [31, if leap then 29 else 28, 31, 30, 31, 30, 31, 31, 30, 31, 30, 31]

/-- Whether a year has a day more. -/
def isLeap (y : Nat) : Bool := y % 4 = 0 && (y % 100 ≠ 0 || y % 400 = 0)

/-- The year, and the day in it, of a day from the start of 1970 on. -/
def yearOf : (fuel : Nat) → (year day : Nat) → Nat × Nat
  | 0, y, d => (y, d)
  | fuel + 1, y, d =>
    let length := if isLeap y then 366 else 365
    if d < length then (y, d) else yearOf fuel (y + 1) (d - length)

/-- The month, and the day in it, of a day of a year, both from zero on. -/
def monthOfDay : List Nat → (month day : Nat) → Nat × Nat
  | [], m, d => (m, d)
  | n :: rest, m, d => if d < n then (m, d) else monthOfDay rest (m + 1) (d - n)

/-- The names of the days of a week. -/
def weekdays : List String :=
  ["Sunday", "Monday", "Tuesday", "Wednesday", "Thursday", "Friday", "Saturday"]

/-- The names of the months. -/
def months : List String :=
  ["January", "February", "March", "April", "May", "June", "July", "August", "September",
   "October", "November", "December"]

/-- A time in a form; it is counted in seconds from the start of 1970 on. -/
def timeText (seconds : Nat) (form : List Char) : String :=
  let days := seconds / 86400
  let (year, dayOfYear) := yearOf 10000 1970 days
  let (month, day) := monthOfDay (monthLengths (isLeap year)) 0 dayOfYear
  let hour := seconds / 3600 % 24
  let minute := seconds / 60 % 60
  let second := seconds % 60
  let two (n : Nat) : String := padZeros 2 (toString n)
  let short (name : String) : String := (name.take 3).copy
  let weekday := weekdays.getD ((days + 4) % 7) ""
  let monthName := months.getD month ""
  let hourOfHalf := (hour + 11) % 12 + 1
  let half := if hour < 12 then "AM" else "PM"
  let date := toString year ++ "-" ++ two (month + 1) ++ "-" ++ two (day + 1)
  let time := two hour ++ ":" ++ two minute ++ ":" ++ two second
  let rec go : List Char → String
    | '%' :: c :: rest =>
      (match c with
        | 'Y' => toString year
        | 'm' => two (month + 1)
        | 'd' => two (day + 1)
        | 'H' => two hour
        | 'M' => two minute
        | 'S' => two second
        | 'y' => two (year % 100)
        | 'j' => padZeros 3 (toString (dayOfYear + 1))
        | 'a' => short weekday
        | 'A' => weekday
        | 'u' => toString ((days + 3) % 7 + 1)
        | 'w' => toString ((days + 4) % 7)
        | 'b' | 'h' => short monthName
        | 'B' => monthName
        | 'C' => two (year / 100)
        | 'I' => two hourOfHalf
        | 'k' => padLeft 2 (toString hour)
        | 'l' => padLeft 2 (toString hourOfHalf)
        | 'p' => half
        | 'P' => half.toLower
        | 'r' => two hourOfHalf ++ ":" ++ two minute ++ ":" ++ two second ++ " " ++ half
        | 'c' => short weekday ++ " " ++ short monthName ++ " " ++ padLeft 2 (toString (day + 1)) ++
          " " ++ time ++ " " ++ toString year
        | 'X' => time
        | 'e' => padLeft 2 (toString (day + 1))
        | 'F' => date
        | 'T' => time
        | 'D' | 'x' => two (month + 1) ++ "/" ++ two (day + 1) ++ "/" ++ two (year % 100)
        | 'R' => two hour ++ ":" ++ two minute
        | 's' => toString seconds
        | 'N' => "000000000"
        | 'Z' => "UTC"
        | 'z' => "+0000"
        | 'n' => "\n"
        | 't' => "\t"
        | '%' => "%"
        | c => String.ofList ['%', c]) ++ go rest
    | c :: rest => String.singleton c ++ go rest
    | [] => ""
  go form

/-- A time that passes for the present. -/
def someTime : Nat := 1767225600

/-- The seconds before a day of a year from 1970 on. -/
def daySeconds? (year month day : Nat) : Option Nat :=
  let lengths := monthLengths (isLeap year)
  if year < 1970 || month = 0 || 12 < month || day = 0 || lengths.getD (month - 1) 0 < day then none
  else
    let years := (List.range (year - 1970)).foldl
      (fun n y => n + if isLeap (1970 + y) then 366 else 365) 0
    let months := (lengths.take (month - 1)).foldl (· + ·) 0
    some ((years + months + (day - 1)) * 86400)

/-- The seconds of a day before an hour, a minute and a second, of which the latter may be
missing. -/
def clockSeconds? : List Nat → Option Nat
  | [] => some 0
  | [hour, minute] => if hour < 24 && minute < 60 then some (hour * 3600 + minute * 60) else none
  | [hour, minute, second] =>
    if hour < 24 && minute < 60 && second < 61 then some (hour * 3600 + minute * 60 + second)
    else none
  | _ => none

/-- The time that a text says, as a number of seconds or a date. -/
def timeOf? (s : String) : Option Nat :=
  if s.startsWith "@" then Numeral.digits? (String.ofList s.toList.tail)
  else if s = "now" || s = "today" then some someTime
  else
    let numbers? (sign : Char) (cs : List Char) : Option (List Nat) :=
      if cs.isEmpty then some []
      else ((String.ofList cs).splitOn (String.singleton sign)).mapM Numeral.digits?
    let cs := s.toList.filter fun c => c ≠ 'Z' && c ≠ 'U' && c ≠ 'C'
    let day := cs.takeWhile fun c => c ≠ ' ' && c ≠ 'T'
    let clock := (cs.dropWhile fun c => c ≠ ' ' && c ≠ 'T').filter fun c => c ≠ ' ' && c ≠ 'T'
    match numbers? '-' day, numbers? ':' clock with
    | some [y, m, d], some times => do return (← daySeconds? y m d) + (← clockSeconds? times)
    | _, _ => none

/-- The time. -/
def date : Utility := fun args =>
  withOptions "date" 1
    { plain := "uRI", valued := "dr", long := [("utc", 'u'), ("date", 'd'), ("reference", 'r')] }
    args fun o => do
    let seconds? := match o.value? 'd' with
      | none => some someTime
      | some s => timeOf? s
    match seconds? with
    | none => fail "date" ("invalid date " ++ quoted ((o.value? 'd').getD "")) 1
    | some seconds =>
      let form := match o.operands with
        | a :: _ => if a.startsWith "+" then a.toList.tail else []
        | [] =>
          if o.has 'R' then "%a, %d %b %Y %T %z".toList
          else if o.has 'I' then "%F".toList
          else "%a %b %e %T %Z %Y".toList
      say (timeText seconds form ++ "\n")
      return 0

/-- Writes a line that is always the same. -/
def fixedLine (s : String) : Utility := fun _ => do
  say (s ++ "\n")
  return 0

end EnvRegistry.Shell.Utility
