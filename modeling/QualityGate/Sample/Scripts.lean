/-
Sample scripts that come with the tool.
-/
import QualityGate.Program.Load

namespace QualityGate.Sample

/-- A script with a function that is too long for the rules. -/
def flawedScript : String := "\n".intercalate [
  "\"\"\"",
  "Example script with intentional quality issues.",
  "\"\"\"",
  "",
  "def very_long_function_with_too_many_parameters(one, two, three, four, five):",
  "    # This function is too long and has too many parameters",
  "    result = 0",
  "    for i in range(100):",
  "        result += i",
  "        if result > 50:",
  "            if i % 2 == 0:",
  "                print(\"Even\")",
  "            else:",
  "                print(\"Odd\")",
  "    return result",
  "",
  "def missing_whitespace():",
  "    x=5  # Missing spaces around operator",
  "    y=10",
  "    return x+y",
  "",
  "if __name__ == \"__main__\":",
  "    print(\"This script has quality issues!\")",
  "    missing_whitespace()",
  "    very_long_function_with_too_many_parameters(1, 2, 3, 4, 5)"]

def greetingScript : String := Text.ofLines [
  "\"\"\"",
  "Example script for SPYQ validation testing.",
  "",
  "This script contains intentional style issues to demonstrate SPYQ validation.",
  "\"\"\"",
  "",
  "def calculate_sum(a, b):",
  "    # Inconsistent indentation",
  "  return a + b  # Bad indentation",
  "",
  "def print_greeting(name):",
  "    print(f\"Hello, \x7bname\x7d!\")",
  "",
  "if __name__ == \"__main__\":",
  "    # Missing space after comma",
  "    result = calculate_sum(1,2)",
  "    print_greeting(\"World\")",
  "    print(f\"1 + 2 = \x7bresult\x7d\")"]

/-- A script whose functions are checked each time they are called. -/
def conventionScript : String := Text.ofLines [
  "\"\"\"",
  "SPYQ Quality Check Example",
  "",
  "This module demonstrates how to use the SPYQ quality checking system.",
  "It includes examples of both good and bad code patterns that will be caught",
  "by the quality checks.",
  "\"\"\"",
  "",
  "from typing import List, Dict, Optional",
  "import os",
  "import sys",
  "",
  "# Import the quality module",
  "from spyq.quality import enforce_quality, QualityCheckResult",
  "",
  "# ===== GOOD EXAMPLES =====",
  "",
  "@enforce_quality",
  "def calculate_average(numbers: List[float]) -> float:",
  "    \"\"\"Calculate the average of a list of numbers.",
  "    ",
  "    Args:",
  "        numbers: List of numbers to calculate average for",
  "        ",
  "    Returns:",
  "        float: The average of the input numbers",
  "        ",
  "    Raises:",
  "        ValueError: If the input list is empty",
  "    \"\"\"",
  "    if not numbers:",
  "        raise ValueError(\"Cannot calculate average of empty list\")",
  "        ",
  "    total = sum(numbers)",
  "    return total / len(numbers)",
  "",
  "# ===== BAD EXAMPLES =====",
  "",
  "# This function will trigger multiple quality issues",
  "@enforce_quality",
  "def BadlyFormattedFunction(param1, param_two: int, ParamThree: str) -> None:  # noqa: N802",
  "    \"\"\"Poorly documented function with style issues.\"\"\"",
  "    # Bad variable naming",
  "    BadVar = 42",
  "    another_bad_var=13  # No spaces around operator",
  "    ",
  "    # Overly complex expression",
  "    result = (BadVar * another_bad_var + len(ParamThree) - param1) / param_two if " ++
    "param_two != 0 else 0",
  "    ",
  "    # Unused variable",
  "    unused = \"This variable is never used\"",
  "    ",
  "    # Print statement in production code",
  "    print(f\"Result: \x7bresult\x7d\")",
  "    ",
  "    # Too many blank lines",
  "",
  "",
  "    return result",
  "",
  "# This class will trigger quality issues",
  "class BadClassExample:",
  "    \"\"\"Class with quality issues.\"\"\"",
  "    ",
  "    def __init__(self, name: str):",
  "        self.name = name",
  "    ",
  "    def BadMethodNaming(self):  # noqa: N802",
  "        \"\"\"Method with bad naming convention.\"\"\"",
  "        return f\"Hello, \x7bself.name\x7d\"",
  "",
  "def main():",
  "    \"\"\"Run the example.\"\"\"",
  "    # Good example usage",
  "    try:",
  "        avg = calculate_average([1, 2, 3, 4, 5])",
  "        print(f\"Average: \x7bavg:.2f\x7d\")",
  "    except ValueError as e:",
  "        print(f\"Error: \x7be\x7d\")",
  "    ",
  "    # Bad example usage",
  "    BadlyFormattedFunction(1, 2, \"test\")",
  "    ",
  "    # Another bad example",
  "    bad_instance = BadClassExample(\"Test\")",
  "    print(bad_instance.BadMethodNaming())",
  "",
  "if __name__ == \"__main__\":",
  "    main()"]

def namingScript : String := Text.ofLines [
  "from spyq.quality import enforce_quality",
  "",
  "@enforce_quality",
  "def example_function(arg_one, argTwo):  # Will trigger arg naming check",
  "    \"\"\"Example function with quality checks.\"\"\"",
  "    BadVar = 42  # Will trigger variable naming check",
  "    return BadVar + arg_one",
  "",
  "if __name__ == \"__main__\":",
  "    example_function(1, 2)"]

def runScript (path text : String) : Act Unit := do
  let loc := (Path.ofText path).names
  modify fun w => { w with disk := w.disk.addWithParents loc (.file text.toUTF8) }
  Program.runMain path

end QualityGate.Sample
