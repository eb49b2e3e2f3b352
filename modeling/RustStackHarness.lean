import RustStackHarness.Python
import RustStackHarness.Pytest
import RustStackHarness.Conftest
import RustStackHarness.Drain
import RustStackHarness.IntegrationScript
import RustStackHarness.ExampleSuite
import RustStackHarness.Cleanup
import RustStackHarness.Prober
import RustStackHarness.Endpoint
import RustStackHarness.Utf8
import RustStackHarness.Session
import RustStackHarness.Process
import RustStackHarness.SampleApp
import RustStackHarness.ItemStore
