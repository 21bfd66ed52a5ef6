/-
Sample files of a project: one that breaks the rules, one that keeps them, and its tests.
-/
import QualityGate.Text.Lines

namespace QualityGate.Scaffold

def badSample : String := Text.ofLines [
  "# main.py - Kod z problemami jakości (celowo)",
  "",
  "def process_user_data_with_many_parameters_and_complex_logic(user_id, first_name, " ++
    "last_name, email_address, phone_number, street_address, city_name, postal_code, " ++
    "country_code, date_of_birth, preferences, settings, metadata):",
  "    if user_id:",
  "        if first_name:",
  "            if last_name:",
  "                if email_address:",
  "                    if phone_number:",
  "                        if street_address:",
  "                            if city_name:",
  "                                if postal_code:",
  "                                    result = \x7b\x7d",
  "                                    result['id'] = user_id",
  "                                    result['first'] = first_name.strip().title()",
  "                                    result['last'] = last_name.strip().title()",
  "                                    result['email'] = email_address.lower().strip()",
  "                                    result['phone'] = phone_number.strip()",
  "                                    result['address'] = street_address.strip()",
  "                                    result['city'] = city_name.strip()",
  "                                    result['postal'] = postal_code.strip()",
  "                                    result['country'] = country_code",
  "                                    result['birth'] = date_of_birth",
  "                                    result['prefs'] = preferences",
  "                                    result['settings'] = settings",
  "                                    result['meta'] = metadata",
  "                                    result['status'] = 'active'",
  "                                    result['created'] = 'now'",
  "                                    result['updated'] = 'now'",
  "                                    return result",
  "    return None",
  "",
  "def another_function_without_documentation():",
  "    data = [1, 2, 3, 4, 5]",
  "    return sum(data)",
  "",
  "if __name__ == \"__main__\":",
  "    result = process_user_data_with_many_parameters_and_complex_logic(",
  "        \"123\", \"John\", \"Doe\", \"john@example.com\", \"+1234567890\",",
  "        \"123 Main St\", \"Anytown\", \"12345\", \"US\", \"1990-01-01\",",
  "        \x7b\"theme\": \"dark\"\x7d, \x7b\"notifications\": True\x7d, " ++
    "\x7b\"source\": \"web\"\x7d",
  "    )",
  "    print(f\"Result: \x7bresult\x7d\")",
  "",
  "    result2 = another_function_without_documentation()",
  "    print(f\"Sum: \x7bresult2\x7d\")"]

def goodSample : String := Text.ofLines [
  "\"\"\"",
  "Good example module demonstrating Quality Guard compliance.",
  "\"\"\"",
  "",
  "from typing import Dict, Any, Optional",
  "",
  "",
  "def process_user_data(user_data: Dict[str, Any]) -> Optional[Dict[str, Any]]:",
  "    \"\"\"",
  "    Process and validate user data input.",
  "",
  "    Args:",
  "        user_data: Dictionary containing user information",
  "",
  "    Returns:",
  "        Processed user data or None if invalid",
  "",
  "    Example:",
  "        >>> data = \x7b\"user_id\": \"123\", \"name\": \"John\", \"email\": " ++
    "\"john@example.com\"\x7d",
  "        >>> result = process_user_data(data)",
  "        >>> result[\"status\"]",
  "        'active'",
  "    \"\"\"",
  "    if not user_data or not isinstance(user_data, dict):",
  "        return None",
  "",
  "    required_fields = [\"user_id\", \"name\", \"email\"]",
  "    if not all(field in user_data for field in required_fields):",
  "        return None",
  "",
  "    return _build_user_record(user_data)",
  "",
  "",
  "def _build_user_record(user_data: Dict[str, Any]) -> Dict[str, Any]:",
  "    \"\"\"",
  "    Build formatted user record from validated data.",
  "",
  "    Args:",
  "        user_data: Validated user data dictionary",
  "",
  "    Returns:",
  "        Formatted user record",
  "    \"\"\"",
  "    return \x7b",
  "        \"user_id\": user_data[\"user_id\"],",
  "        \"name\": user_data[\"name\"].strip().title(),",
  "        \"email\": user_data[\"email\"].lower().strip(),",
  "        \"status\": \"active\",",
  "        \"created_at\": \"now\"",
  "    \x7d",
  "",
  "",
  "def calculate_sum(numbers: list) -> int:",
  "    \"\"\"",
  "    Calculate sum of a list of numbers.",
  "",
  "    Args:",
  "        numbers: List of numbers to sum",
  "",
  "    Returns:",
  "        Sum of all numbers",
  "",
  "    Example:",
  "        >>> calculate_sum([1, 2, 3, 4, 5])",
  "        15",
  "    \"\"\"",
  "    return sum(numbers)"]

def sampleTests : String := Text.ofLines [
  "\"\"\"",
  "Tests for good_example module.",
  "\"\"\"",
  "",
  "import sys",
  "from pathlib import Path",
  "",
  "# Add src to path",
  "sys.path.insert(0, str(Path(__file__).parent.parent / \"src\"))",
  "",
  "from good_example import process_user_data, calculate_sum",
  "",
  "",
  "def test_process_user_data_valid():",
  "    \"\"\"Test processing valid user data.\"\"\"",
  "    user_data = \x7b",
  "        \"user_id\": \"123\",",
  "        \"name\": \"  john doe  \",",
  "        \"email\": \"  JOHN@EXAMPLE.COM  \"",
  "    \x7d",
  "",
  "    result = process_user_data(user_data)",
  "",
  "    assert result is not None",
  "    assert result[\"user_id\"] == \"123\"",
  "    assert result[\"name\"] == \"John Doe\"",
  "    assert result[\"email\"] == \"john@example.com\"",
  "    assert result[\"status\"] == \"active\"",
  "",
  "",
  "def test_process_user_data_invalid():",
  "    \"\"\"Test processing invalid user data.\"\"\"",
  "    assert process_user_data(None) is None",
  "    assert process_user_data(\x7b\x7d) is None",
  "    assert process_user_data(\x7b\"user_id\": \"123\"\x7d) is None  # Missing " ++
    "required fields",
  "",
  "",
  "def test_calculate_sum():",
  "    \"\"\"Test calculate_sum function.\"\"\"",
  "    assert calculate_sum([1, 2, 3, 4, 5]) == 15",
  "    assert calculate_sum([]) == 0",
  "    assert calculate_sum([-1, 1]) == 0"]

end QualityGate.Scaffold
